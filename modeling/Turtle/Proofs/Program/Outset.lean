import Turtle.Program
import Turtle.Proofs.Settings

/-!
# How a command begins

A command without a terminal opens its journal and reads its settings before it does anything
else. Either fails, and then nothing else happens, or the command goes on in a world of its own
(`Program.outset?`). What waits on the standard input has no part in that.

* `Program.headless_of_outset?` and `Program.headless_of_outset?_eq_none` say what either leads to;
* `Program.outset?_withInput`: the beginning does not depend on the input.
-/

namespace Turtle

/-- The world with something else on the standard input. -/
def World.withInput (w : World Console) (input : Bytes) : World Console :=
  { w with host := { w.host with input := input } }

theorem World.record_withInput (w : World Console) (input : Bytes) (e : Event) :
    (w.withInput input).record e = (w.record e).withInput input := by
  rw [record, record, show (w.withInput input).journal = w.journal from rfl]
  by_cases hkeeps : w.journal.keeps e = true
  · rw [if_pos hkeeps, if_pos hkeeps]
    cases w.journal.sink <;> rfl
  · rw [if_neg hkeeps, if_neg hkeeps]

namespace Program

/-- The world and the settings with which a command begins its work, if it gets there. -/
def outset? (options : Options) (disk : Disk) (time : String) (stdin : Bytes) :
    Option (World Console × Settings) :=
  match openSink options .messages disk with
  | .error _ => none
  | .ok (sink, disk) =>
    let console : Console := ⟨stdin, "", false⟩
    match loadSettings ⟨console, disk, ⟨Level.ofVerbosity options.verbosity, sink, time⟩⟩
        options with
    | (.error _, _) => none
    | (.ok settings, w) => some (w, settings)

variable {options : Options} {disk : Disk} {time : String} {stdin : Bytes}

theorem headless_of_outset? (command : World Console → Settings → Result) {w : World Console}
    {settings : Settings} (h : outset? options disk time stdin = some (w, settings)) :
    headless options disk time stdin command = command w settings := by
  revert h
  rw [outset?, headless]
  cases openSink options .messages disk with
  | error fault => exact nofun
  | ok x =>
    obtain ⟨sink, disk⟩ := x
    dsimp only
    rcases loadSettings (World.mk _ disk ⟨_, sink, time⟩) options with ⟨_ | settings', w'⟩
    · exact nofun
    · rintro ⟨⟩
      rfl

/-- A command that does not get to its work prints nothing and fails. -/
theorem headless_of_outset?_eq_none (command : World Console → Settings → Result)
    (h : outset? options disk time stdin = none) :
    (headless options disk time stdin command).code = 1 ∧
      (headless options disk time stdin command).stdout = "" := by
  revert h
  rw [outset?, headless]
  cases openSink options .messages disk with
  | error fault => exact fun _ => ⟨rfl, rfl⟩
  | ok x =>
    obtain ⟨sink, disk⟩ := x
    dsimp only
    rcases loadSettings (World.mk _ disk ⟨_, sink, time⟩) options with ⟨_ | settings', w'⟩
    · exact fun _ => ⟨rfl, rfl⟩
    · exact nofun

theorem isPenWidth_of_loadSettings {H : Type} [Host H] {w : World H} {settings : Settings}
    (h : (loadSettings w options).1 = .ok settings) : IsPenWidth settings.pen.width := by
  rw [loadSettings] at h
  cases hconfig : options.config with
  | none =>
    rw [hconfig] at h
    cases h
    exact Settings.isPenWidth_standard
  | some path =>
    rw [hconfig] at h
    dsimp only at h
    cases hload : Settings.load w.disk path with
    | error fault =>
      rw [hload] at h
      cases h
    | ok settings' =>
      rw [hload] at h
      cases h
      exact Settings.isPenWidth_of_load hload

/-- The settings that a command begins with have a valid pen width. -/
theorem isPenWidth_of_outset? {w : World Console} {settings : Settings}
    (h : outset? options disk time stdin = some (w, settings)) : IsPenWidth settings.pen.width := by
  revert h
  rw [outset?]
  cases openSink options .messages disk with
  | error fault => exact nofun
  | ok x =>
    obtain ⟨sink, disk⟩ := x
    dsimp only
    rcases hloaded : loadSettings (World.mk _ disk ⟨_, sink, time⟩) options with
      ⟨_ | settings', w'⟩
    · exact nofun
    · rintro ⟨⟩
      exact isPenWidth_of_loadSettings (congrArg Prod.fst hloaded)

theorem recordUnknown_withInput (w : World Console) (input : Bytes) (path : Path) :
    recordUnknown (w.withInput input) path = (recordUnknown w path).withInput input := by
  have all (keys : List String) (w : World Console) :
      keys.foldl (fun w key => w.record (.unknownSetting key)) (w.withInput input) =
        (keys.foldl (fun w key => w.record (.unknownSetting key)) w).withInput input := by
    induction keys generalizing w with
    | nil => rfl
    | cons key keys ih => rw [List.foldl_cons, List.foldl_cons, World.record_withInput, ih]
  rw [recordUnknown, recordUnknown, show (w.withInput input).disk = w.disk from rfl]
  cases w.disk.readText path with
  | error e => rfl
  | ok text => exact all _ w

theorem loadSettings_withInput (w : World Console) (input : Bytes) (options : Options) :
    loadSettings (w.withInput input) options =
      ((loadSettings w options).1, (loadSettings w options).2.withInput input) := by
  rw [loadSettings, loadSettings]
  cases options.config with
  | none =>
    dsimp only
    rw [World.record_withInput]
  | some path =>
    dsimp only
    rw [recordUnknown_withInput, show (w.withInput input).disk = w.disk from rfl]
    cases Settings.load w.disk path with
    | error e => rfl
    | ok settings =>
      dsimp only
      rw [World.record_withInput]

/-- A command begins the same, whatever waits on the standard input. -/
theorem outset?_withInput (options : Options) (disk : Disk) (time : String)
    (stdin stdin' : Bytes) : outset? options disk time stdin' =
      (outset? options disk time stdin).map fun x => (x.1.withInput stdin', x.2) := by
  rw [outset?, outset?]
  cases openSink options .messages disk with
  | error e => rfl
  | ok x =>
    obtain ⟨sink, disk⟩ := x
    dsimp only
    -- The two worlds differ in nothing but the input.
    let world : World Console :=
      ⟨⟨stdin, "", false⟩, disk, ⟨Level.ofVerbosity options.verbosity, sink, time⟩⟩
    rw [show World.mk _ _ _ = world.withInput stdin' from rfl, loadSettings_withInput]
    show _ = Option.map _ (match loadSettings world options with
      | (.error _, _) => none
      | (.ok settings, w) => some (w, settings))
    rcases loadSettings world options with ⟨result, w⟩
    cases result <;> rfl

end Program

end Turtle
