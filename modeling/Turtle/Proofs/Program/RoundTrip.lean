import Turtle.Proofs.Program.Outset
import Turtle.Proofs.Session.CommandFile

/-!
# Nothing is lost in a command file

What a session saves, and what the program prints when it runs a script, is a script again that
does the same. So it can be run as often as one likes: what is saved or printed then is the same
text.

* `Program.stdout_run`: running a script prints the text of the log that it leaves;
* `Program.commandFile_round_trip`: a log that is written and run again is the same log, with the
  drawing that belongs to it.
-/

namespace Turtle.Program

/-- Running a script prints the text of the log that it leaves, whether an image can be saved or
    not. -/
theorem stdout_run {w : World Console} {script : Path} {content : String}
    (h : w.disk.readText script = .ok content) (settings : Settings) (image : Option Path) :
    (run w settings script image).stdout = Session.commandFile
      ((Session.ofSettings settings w : Session Float Console).runScript
        content).2.timeline.entries := by
  rw [run, h]
  dsimp only
  split
  · rfl
  · split <;> rfl

/-- What running a script prints is the text of a log in range, also when it cannot be read. -/
theorem exists_stdout_run {settings : Settings} (h : IsPenWidth settings.pen.width)
    (w : World Console) (script : Path) (image : Option Path) :
    ∃ ps, (∀ p ∈ ps, p.InRange) ∧
      (run w settings script image).stdout = Session.commandFile ps := by
  cases hread : w.disk.readText script with
  | error e =>
    refine ⟨[], fun _ hp => absurd hp List.not_mem_nil, ?_⟩
    rw [run, hread]
    rfl
  | ok content =>
    have hsound := Session.sound_performAll (R := Float) h w [.script content]
    exact ⟨_, fun p hp => hsound.inRange hp, stdout_run hread settings image⟩

/-- A job to run a script runs it, if it gets to its work. -/
theorem perform_run {args : List String} {options : Options} {script : Path} {image : Option Path}
    (h : Invocation.read args = .job options (.run script image)) {disk : Disk} {time : String}
    {stdin : Bytes} {w : World Console} {settings : Settings}
    (houtset : outset? options disk time stdin = some (w, settings)) (keys : List Key) :
    perform args disk time stdin keys = run w settings script image := by
  simp only [perform, h, headless_of_outset? _ houtset]

/-- What is printed when a job to run a script is done is the text of a log in range. -/
theorem exists_stdout_perform {args : List String} {options : Options} {script : Path}
    {image : Option Path} (h : Invocation.read args = .job options (.run script image))
    (disk : Disk) (time : String) (stdin : Bytes) (keys : List Key) :
    ∃ ps, (∀ p ∈ ps, p.InRange) ∧
      (perform args disk time stdin keys).stdout = Session.commandFile ps := by
  cases houtset : outset? options disk time stdin with
  | none =>
    have hperform : perform args disk time stdin keys =
        headless options disk time stdin fun w settings => run w settings script image := by
      simp only [perform, h]
    refine ⟨[], fun _ hp => absurd hp List.not_mem_nil, ?_⟩
    rw [hperform, (headless_of_outset?_eq_none _ houtset).2]
    rfl
  | some x =>
    rw [perform_run h houtset]
    exact exists_stdout_run (isPenWidth_of_outset? houtset) _ _ _

/-- Running the text of a log prints that text. -/
theorem stdout_run_commandFile {ps : List Primitive} (hps : ∀ p ∈ ps, p.InRange)
    {w : World Console} {script : Path}
    (h : w.disk.read script = .ok (Text.encode (Session.commandFile ps))) (settings : Settings)
    (image : Option Path) :
    (run w settings script image).stdout = Session.commandFile ps := by
  have htext : w.disk.readText script = .ok (Session.commandFile ps) := by
    refine bind_eq_ok_iff.2 ⟨_, h, ?_⟩
    rw [Text.decode?_encode]
  have hentries := (Session.timeline_runScript_commandFile
    (s := (Session.ofSettings settings w : Session Float Console)) rfl hps).1
  rw [stdout_run htext, hentries]
  rfl

/-- The log of a session, whatever was done in it, is written as a script that every session runs
    without refusing anything: the entries come behind its own log, and if there are any, nothing
    is left to redo. A new session with the same pen then has the same log, with the turtle in the
    same place and the same pen, and the same scene if no image has come onto it since the last
    undo or clear; its log is written as the same text. That text of the log is what the program
    prints when it runs a script; and what it prints then is printed again, when it is run as a
    script. -/
theorem commandFile_round_trip {R H H' : Type} [Scalar R] [Host H] [Host H']
    {settings : Settings} (hwidth : IsPenWidth settings.pen.width) (w : World H)
    (ops : List (Operation H)) :
    let fresh : Session R H := .ofSettings settings w
    let s := fresh.performAll ops
    let text := Session.commandFile s.timeline.entries
    (∀ (settings' : Settings) (w' : World H') (ops' : List (Operation H')),
      let b := (Session.ofSettings settings' w' : Session R H').performAll ops'
      let loaded := b.runScript text
      loaded.1 = [] ∧ loaded.2.timeline.entries = b.timeline.entries ++ s.timeline.entries ∧
        loaded.2.timeline.future = if s.timeline.entries = [] then b.timeline.future else []) ∧
    (∀ (settings' : Settings) (w' : World H'), settings'.pen = settings.pen →
      let again := ((Session.ofSettings settings' w' : Session R H').runScript text).2
      again.timeline.entries = s.timeline.entries ∧
        again.canvas.position = s.canvas.position ∧ again.canvas.heading = s.canvas.heading ∧
        again.pen = s.pen ∧
        ((∀ turn ∈ Turn.sinceRedrawn (fresh.history ops), turn.imports = false) →
          again.canvas.scene = s.canvas.scene) ∧
        Session.commandFile again.timeline.entries = text) ∧
    (∀ (w' : World Console) (settings' : Settings) (script : Path) (image : Option Path)
      (content : String), w'.disk.readText script = .ok content →
      let left := ((Session.ofSettings settings' w' : Session Float Console).runScript content).2
      (run w' settings' script image).stdout = Session.commandFile left.timeline.entries ∧
      ∀ (args : List String) (options : Options) (disk : Disk) (time : String) (stdin : Bytes)
        (keys : List Key), Invocation.read args = .job options (.run script image) →
        outset? options disk time stdin = some (w', settings') →
        (perform args disk time stdin keys).stdout =
          Session.commandFile left.timeline.entries) ∧
    ∀ (args args' : List String) (options options' : Options) (script script' : Path)
      (image image' : Option Path) (disk disk' : Disk) (time time' : String)
      (stdin stdin' : Bytes) (keys keys' : List Key) (w' : World Console) (settings' : Settings),
      Invocation.read args = .job options (.run script image) →
      Invocation.read args' = .job options' (.run script' image') →
      outset? options' disk' time' stdin' = some (w', settings') →
      let printed := (perform args disk time stdin keys).stdout
      w'.disk.read script' = .ok (Text.encode printed) →
        (perform args' disk' time' stdin' keys').stdout = printed := by
  intro fresh s text
  have hrun : Session.Run fresh (fresh.history ops) s := fresh.run_history ops
  have hps (p : Primitive) (hp : p ∈ s.timeline.entries) : p.InRange :=
    (Session.sound_performAll hwidth w ops).inRange hp
  refine ⟨?_, ?_, ?_, ?_⟩
  · intro settings' w' ops' b loaded
    have hidle : b.timeline.replaying = false := Session.replaying_performAll settings' w' ops'
    obtain ⟨hentries, hfuture⟩ := Session.timeline_runScript_commandFile hidle hps
    dsimp only [loaded, text]
    exact ⟨(b.runScript_commandFile hps).1, hentries, hfuture⟩
  · intro settings' w' hpen again
    have hdefaults : s.defaults = settings.pen := hrun.defaults_eq
    dsimp only [again, text]
    obtain ⟨haligned, hpen', hall, hdrawn⟩ := hrun.replays (Session.replays_ofSettings settings w)
    obtain ⟨hentries, haligned', hscene, hpen''⟩ :=
      Session.reloaded_eq hps (hpen.trans hdefaults.symm) w'
    refine ⟨hentries, haligned'.position.trans haligned.position.symm,
      haligned'.heading.trans haligned.heading.symm, hpen''.trans hpen'.symm, ?_,
      congrArg Session.commandFile hentries⟩
    intro himports
    -- What the log replays is what was drawn, and without images that is everything.
    calc
      _ = s.replayed.scene := hscene
      _ = ((fresh.history ops).foldl MarkedScene.after {}).drawn := hdrawn.symm
      _ = ((fresh.history ops).foldl MarkedScene.after {}).all :=
        MarkedScene.drawn_eq_all_of_sinceRedrawn himports
      _ = s.canvas.scene := hall
  · intro w' settings' script image content hread left
    have hprinted := stdout_run hread settings' image
    refine ⟨hprinted, fun args options disk time stdin keys hargs houtset => ?_⟩
    rw [perform_run hargs houtset]
    exact hprinted
  · intro args args' options options' script script' image image' disk disk' time time' stdin
      stdin' keys keys' w' settings' hargs hargs' houtset printed hread
    obtain ⟨ps, hin, hprinted⟩ := exists_stdout_perform hargs disk time stdin keys
    rw [show printed = _ from hprinted] at hread ⊢
    rw [perform_run hargs' houtset, stdout_run_commandFile hin hread]

/-- A square, saved and loaded behind a move and a move taken back, and a script with a square that
    is run and whose output is run. -/
theorem commandFile_round_trip_square :
    let w : World Console := ⟨⟨[], "", false⟩, ⟨[], [], []⟩, Journal.silent⟩
    let fresh : Session Float Console := .ofSettings Settings.standard w
    let s := fresh.performAll [.statement ⟨"square", ["5"]⟩ .user]
    let text := Session.commandFile s.timeline.entries
    let b := fresh.performAll [.line "move 1; move 2; undo"]
    let again := (fresh.runScript text).2
    let disk (script : String) : Disk := ⟨[([Text.encode "s"], .file (Text.encode script))], [], []⟩
    let printed (script : String) := (perform ["run", "s"] (disk script) "" [] []).stdout
    let sides := "pen 0 0 255\npenwidth 1\npendown\nmove 5\nright 90\nmove 5\nright 90\n" ++
      "move 5\nright 90\nmove 5\nright 90\n"
    IsPenWidth Settings.standard.pen.width ∧
    ((b.runScript text).1 = [] ∧
      (b.runScript text).2.timeline.entries = b.timeline.entries ++ s.timeline.entries ∧
      (b.runScript text).2.timeline.future =
        if s.timeline.entries = [] then b.timeline.future else []) ∧
    again.timeline.entries = s.timeline.entries ∧ again.canvas.scene = s.canvas.scene ∧
    printed "square 5\n" = sides ∧ printed sides = sides := by
  intro w fresh s text b again disk printed sides
  have hwidth : IsPenWidth Settings.standard.pen.width := ⟨by decide, by decide⟩
  have hargs : Invocation.read ["run", "s"] = .job {} (.run (Path.ofText "s") none) := by
    decide +kernel
  have himports : ∀ turn ∈ Turn.sinceRedrawn (fresh.history [.statement ⟨"square", ["5"]⟩ .user]),
      turn.imports = false := by
    decide +kernel
  have houtset (script : String) : outset? {} (disk script) "" [] =
      some (⟨⟨[], "", false⟩, disk script, ⟨.warn, .messages, ""⟩⟩, .standard) := rfl
  have hread : (disk "square 5\n").readText (Path.ofText "s") = .ok "square 5\n" := by
    decide +kernel
  obtain ⟨hloaded, hagain, hprints, hreprints⟩ := @commandFile_round_trip Float Console Console
    _ _ _ Settings.standard hwidth w [.statement ⟨"square", ["5"]⟩ .user]
  have hb := hloaded Settings.standard w [.line "move 1; move 2; undo"]
  obtain ⟨hentries, -, -, -, hscene, -⟩ := hagain Settings.standard w rfl
  have hsides : printed "square 5\n" = sides := by
    have hstdout := (hprints _ _ _ none _ hread).2 _ _ _ _ _ [] hargs (houtset "square 5\n")
    refine hstdout.trans ?_
    decide +kernel
  have hagainread : (disk sides).read (Path.ofText "s") =
      .ok (Text.encode (printed "square 5\n")) := by
    rw [hsides]
    decide +kernel
  have hrerun := hreprints _ _ _ _ _ _ none none (disk "square 5\n") (disk sides) "" "" [] [] [] []
    _ _ hargs hargs (houtset sides) hagainread
  refine ⟨hwidth, ?_, ?_, ?_, hsides, ?_⟩
  · dsimp only [text, b, s, fresh]
    exact hb
  · dsimp only [again, text, s, fresh]
    exact hentries
  · dsimp only [again, text, s, fresh]
    exact hscene himports
  · exact hrerun.trans hsides

end Turtle.Program
