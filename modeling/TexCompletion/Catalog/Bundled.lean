import TexCompletion.Catalog

/-!
# The bundled catalog

The packages that are offered in every document that does not load them already, whatever the
client configures or contributes.
-/

namespace TexCompletion.Catalog

/-- The names of the bundled catalog, in the order in which they are offered. -/
def bundledNames : List String :=
  ["amsmath", "amssymb", "amsthm", "amsfonts", "mathtools", "graphicx", "xcolor", "color",
   "hyperref", "geometry", "fancyhdr", "babel", "inputenc", "fontenc", "lmodern", "times",
   "helvet", "mathptmx", "microtype", "setspace", "parskip", "enumitem", "booktabs", "tabularx",
   "longtable", "multirow", "array", "colortbl", "caption", "subcaption", "float", "wrapfig",
   "tikz", "pgfplots", "pgf", "listings", "minted", "verbatim", "fancyvrb", "algorithm",
   "algorithmic", "algorithmicx", "algpseudocode", "natbib", "biblatex", "cite", "url", "xurl",
   "cleveref", "varioref", "titlesec", "tocloft", "appendix", "etoolbox", "xparse", "ifthen",
   "calc", "siunitx", "units", "physics", "bm", "upgreek", "gensymb", "textcomp", "csquotes",
   "lipsum", "blindtext", "todonotes", "soul", "ulem", "framed", "mdframed", "tcolorbox",
   "fontspec", "polyglossia", "unicode-math", "placeins", "afterpage", "pdfpages", "eso-pic",
   "background", "rotating", "pdflscape", "lscape", "multicol", "makeidx", "imakeidx",
   "glossaries", "acronym", "nomencl", "footmisc", "chngcntr", "threeparttable", "dcolumn",
   "xspace", "ragged2e", "changepage", "fancybox", "kvoptions", "keyval", "xkeyval", "environ",
   "trimspaces", "bookmark", "hypcap", "epstopdf", "standalone", "import", "subfiles", "comment",
   "datetime", "datetime2", "lastpage", "marginnote", "sidecap", "chemfig", "mhchem", "tabu",
   "makecell", "diagbox", "hhline", "arydshln", "pifont", "wasysym", "marvosym", "fontawesome",
   "dsfont", "mathrsfs", "stmaryrd", "cancel", "xfrac", "nicefrac", "empheq", "braket", "tensor",
   "cases", "bbm", "esint", "amscd", "tikz-cd", "forest", "qtree", "circuitikz", "karnaugh-map",
   "beamer", "beamerposter", "a0poster", "sectsty", "titling", "tocbibind", "minitoc", "hyphenat",
   "lineno", "sansmath", "scrlayer-scrpage", "typearea", "enotez", "endnotes"]

/-- The catalog a session starts with. -/
def bundled : Catalog :=
  ofList bundledNames

end TexCompletion.Catalog
