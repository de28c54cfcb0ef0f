import TexCompletion.Text.Split
import TexCompletion.Url.Percent

/-!
# Paths

A path is worked out while it is read.  Segments are written behind each other, and at the end of
each one it is seen what it stands for: `.` and `..` are taken back and name the place or the place
above, so two spellings of one path come out the same.

In a `file` URL a drive letter at the start counts as the root: it is written with a colon and is
never stepped over.  Empty segments at the start of such a path are dropped in the end.
-/

namespace TexCompletion.Url

/-! ## Segments -/

/-- The segment stands for the place it is in. -/
def isDot (segment : List Char) : Bool :=
  let s := segment.map Char.toLower
  s = ".".toList || s = "%2e".toList

/-- The segment stands for the place above. -/
def isDoubleDot (segment : List Char) : Bool :=
  let s := segment.map Char.toLower
  s = "..".toList || s = ".%2e".toList || s = "%2e.".toList || s = "%2e%2e".toList

/-- The segment names a drive: a letter and a colon, or a bar in place of the colon. -/
def isDrive : List Char → Bool
  | [letter, mark] => letter.isAlpha && (mark == ':' || mark == '|')
  | _ => false

/-- The segment names a drive with a colon. -/
def isPlainDrive (segment : List Char) : Bool :=
  isDrive segment && segment.getLast? == some ':'

/-- The first segment of a text, which may hold more, names a drive. -/
def beginsWithDrive : List Char → Bool
  | [letter, mark] => isDrive [letter, mark]
  | letter :: mark :: next :: _ => isDrive [letter, mark] && "/\\?#".toList.contains next
  | _ => false

/-! ## The place above -/

/-- What stands behind the last slash of a path. -/
def lastSegment (path : List Char) : List Char :=
  (path.reverse.takeWhile (· ≠ '/')).reverse

/-- The path up to its last slash. -/
def uptoSlash (path : List Char) : List Char :=
  path.take (path.length - (lastSegment path).length)

/-- The path without its last segment; a drive stays. -/
def dropSegment (file : Bool) (path : List Char) : List Char :=
  if file && isPlainDrive (lastSegment path) then path else uptoSlash path

/-- The path ends with a slash behind which a segment was begun and which may go with it: it is
neither the root nor the slash behind a drive. -/
def endsWithInnerSlash (path : List Char) : Bool :=
  path.getLast? == some '/' &&
    !(uptoSlash path.dropLast).isEmpty &&
    !beginsWithDrive (lastSegment path.dropLast ++ ['/'])

/-- The path of the place above the one whose path, up to and with its last slash, is given. -/
def parent (file : Bool) (path : List Char) : List Char :=
  dropSegment file (if endsWithInnerSlash path then path.dropLast else path)

/-! ## Reading -/

/-- A path that is being read. -/
structure Walk where
  /-- The path so far.  It begins with a slash. -/
  written : List Char
  /-- Where in it the segment begins that is being read. -/
  start : Nat
  /-- What was read of that segment and is not written yet. -/
  pending : List Char := []
  /-- A drive was found at the start. -/
  onDrive : Bool := false

namespace Walk

/-- The walk at the root. -/
def root : Walk :=
  ⟨['/'], 1, [], false⟩

/-- Writes what was read. -/
def flush (w : Walk) : Walk :=
  { w with written := w.written ++ encode inPath w.pending, pending := [] }

/-- Resolves the segment that was read, which `slash` follows, and begins the next one. -/
def finish (file slash : Bool) (w : Walk) : Walk :=
  let w := w.flush
  let segment := w.written.drop w.start
  let before := w.written.take w.start
  let closing := if slash then ['/'] else []
  let closed (path : List Char) :=
    if path.getLast? = some '/' then path else path ++ closing
  let (written, onDrive) :=
    if isDoubleDot segment then (closed (parent file before), w.onDrive)
    else if isDot segment then
      (if before.getLast? = some '/' then before else before ++ ['/'], w.onDrive)
    else if file && w.start == 1 && isDrive segment then
      (before ++ segment.take 1 ++ ':' :: closing, true)
    else (w.written ++ closing, w.onDrive)
  ⟨written, written.length, [], onDrive⟩

/-- Reads a character.  One that is passed over divides what is written of a segment from what is
not; if a drive was written there, the segment goes on behind a slash. -/
def read (file : Bool) (isSlash isIgnored : Char → Bool) (w : Walk) (c : Char) : Walk :=
  if isIgnored c then w.flush
  else if isSlash c then w.finish file true
  else
    let w := if file && isPlainDrive (w.written.drop 1) then
      { w with written := w.written ++ ['/'], start := w.start + 1 } else w
    { w with pending := w.pending ++ [c] }

/-- The path without empty segments at its start. -/
def trimmed (w : Walk) : List Char :=
  '/' :: w.written.dropWhile (· = '/')

end Walk

/-- Walks along a text. -/
def walk (file : Bool) (isSlash isIgnored : Char → Bool) (from_ : Walk) (cs : List Char) : Walk :=
  (cs.foldl (Walk.read file isSlash isIgnored) from_).finish file false

end TexCompletion.Url
