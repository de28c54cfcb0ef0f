import TexCompletion.Proofs.Session.History

/-!
# The settings in force

A configuration shows in three places: in itself, in the catalog that its extra packages extend, and in
the provider.  They are one decision, so they have to change together or not at all.

A session works the catalog and the provider out of its configuration.  A server may as well keep all
three ready (`Settings`), make them anew from each value that is accepted, and put them in the place of
those before (`Settings.next`).  `settings_run` says that the two come to the same after every run: no
part lags behind, and no extra package of an earlier configuration stays.  It is an induction along the
history, whose step is the equation `settings_step` on a single event.

`settings_after_history` is the main statement.  It adds where the configuration comes from and what the
client is told.
-/

namespace TexCompletion

/-- The settings, ready for use. -/
structure Settings where
  config : Config
  catalog : Catalog
  provider : Provider

namespace Settings

/-- The settings of a configuration.  The catalog extends the bundled one. -/
def ofConfig (bundled : Catalog) (config : Config) : Settings :=
  ⟨config, config.catalog bundled, .ofConfig config⟩

/-- The settings after an event: made anew if the event brings a value that is accepted, and otherwise
those before. -/
def next (bundled : Catalog) (kept : Settings) (event : Session.Event) : Settings :=
  event.accepted?.elim kept (ofConfig bundled)

end Settings

namespace Session

/-- The settings in force. -/
def settings (s : Session) : Settings :=
  ⟨s.config, s.catalog, s.provider⟩

/-- The value that an event brings for the settings. -/
def Event.settings? : Event → Option Json.Value
  | .started options => options
  | .configured value => some value
  | _ => none

/-! ## One event -/

/-- A session is told to take over settings by the events that bring a value. -/
theorem step_of_settings? {event : Event} {value : Json.Value} (h : event.settings? = some value)
    (s : Session) : s.step event = s.configure value := by
  cases event with
  | started options =>
    obtain rfl : options = some value := h
    rfl
  | configured settings =>
    obtain rfl : settings = value := Option.some.inj h
    rfl
  | _ => cases h

/-- A value that is refused leaves the session as it was, and the client gets one warning. -/
theorem configure_of_error {value : Json.Value} {e : Config.Error}
    (h : Config.ofValue value = .error e) (s : Session) :
    s.configure value = (s, [⟨.warning, "latex: " ++ e.message⟩]) := by
  rw [configure, h]

/-- A value that is accepted replaces the configuration, and the client gets no notice. -/
theorem configure_of_ok {value : Json.Value} {config : Config}
    (h : Config.ofValue value = .ok config) (s : Session) :
    s.configure value = ({ s with config }, []) := by
  rw [configure, h]

/-- The settings in force are made anew by a value that is accepted, and by nothing else. -/
theorem settings_step (s : Session) (event : Event) :
    (s.step event).1.settings = s.settings.next s.bundled event := by
  rw [step_fst, Settings.next]
  cases event.accepted? <;> rfl

/-! ## A run of events -/

theorem bundled_step (s : Session) (event : Event) : (s.step event).1.bundled = s.bundled := by
  rw [step_fst]

/-- Settings that are kept ready through a run are those in force after it. -/
theorem settings_run (s : Session) (events : List Event) :
    (s.run events).settings = events.foldl (Settings.next s.bundled) s.settings := by
  induction events generalizing s with
  | nil => rfl
  | cons event events ih =>
    calc ((s.run (event :: events)).settings)
        = ((s.step event).1.run events).settings := rfl
      _ = events.foldl (Settings.next (s.step event).1.bundled) (s.step event).1.settings := ih _
      _ = events.foldl (Settings.next s.bundled) (s.settings.next s.bundled event) := by
          rw [bundled_step, settings_step]

/-- **The settings in force are those of the last value that was accepted.**  After any run the
configuration is that of this value, or the default if there is none.  The catalog is the bundled one
with the extra packages of this configuration and of no other, and the provider has its boost and its
choice whether to search the document.  These are the settings that are kept ready, replaced as a whole
by each value that is accepted.  A further value that is refused leaves all of the session as it was and
brings the client one warning, one that is accepted brings none. -/
theorem settings_after_history (bundled : Catalog) (history : List Step) :
    let events := history.filterMap Step.event?
    let s := ({ bundled } : Session).after history
    let config := lastAccepted events
    s.config = config ∧
    s.catalog.names = (bundled.names ++ config.extraPackages).eraseDups ∧
    s.provider =
      { emptyBoost := config.emptyDeclarationBoost, scanDocument := config.scanDocument } ∧
    s.settings = events.foldl (Settings.next bundled) (.ofConfig bundled {}) ∧
    ∀ event value, event.settings? = some value →
      (∀ e, Config.ofValue value = .error e →
        s.step event = (s, [⟨.warning, "latex: " ++ e.message⟩])) ∧
      ∀ accepted, Config.ofValue value = .ok accepted →
        s.step event = ({ s with config := accepted }, []) := by
  intro events s config
  have hrun : s = ({ bundled } : Session).run events := after_eq_run _ _
  have hconfig : s.config = config := by rw [hrun, config_run]
  have hbundled : s.bundled = bundled := by rw [hrun, bundled_run]
  refine ⟨hconfig, ?_, ?_, ?_, fun event value hvalue => ⟨fun e he => ?_, fun accepted ha => ?_⟩⟩
  · rw [catalog, hconfig, hbundled]
    rfl
  · rw [provider, hconfig]
    rfl
  · rw [hrun, settings_run]
    rfl
  · rw [step_of_settings? hvalue, configure_of_error he]
  · rw [step_of_settings? hvalue, configure_of_ok ha]

/-- The first extra package does not stay, and the last value, which is refused, changes nothing. -/
example :
    let value (extra : Json.Value) : Json.Value := .object [("extraPackages", extra)]
    (({ bundled := .ofList ["amsmath"] } : Session).run
      [.configured (value (.array [.string "first"])),
        .configured (value (.array [.string "second"])),
        .configured (value .null)]).catalog.names = ["amsmath", "second"] := by
  decide +kernel

end Session

end TexCompletion
