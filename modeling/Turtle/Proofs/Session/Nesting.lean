import Mathlib.Logic.Relation
import Mathlib.Order.RelClasses
import Turtle.Binary64.Scalar
import Turtle.Console
import Turtle.Proofs.Session.Host
import Turtle.Proofs.Session.Refusal

/-!
# Command files do not nest

A statement loads a command file, a command file is a script, and a script is made of statements.
What keeps this circle from closing is the mark of a session that a script is being run: it is put
on before the statements of a script and taken off behind them, and with it no statement loads
anything. So a call to do a statement leads to the statements of one command file at most, even if
that file names itself.

* `Session.obeyBy` and `Session.runScriptWith` follow the circle with nothing said of where it ends;
  `Session.obey` and `Session.runScript` solve their equations, and calls that go one level deep
  reach all that they reach (`Session.obeyWithin`);
* `Session.Call.Makes` says which call makes which, and `Session.Call.rank` goes down with it;
* `Asked` is a host that keeps in mind which paths it was asked for.
-/

namespace Turtle

/-! ## Hosts that know what they were asked for -/

/-- A host, and the questions for paths that it was asked. -/
structure Asked (H : Type) where
  host : H
  dialogs : List Dialog

instance {H : Type} [Host H] : Host (Asked H) where
  report message a := { a with host := Host.report message a.host }
  confirm question a :=
    let (yes, host) := Host.confirm question a.host
    (yes, { a with host := host })
  pick dialog a :=
    let (path, host) := Host.pick dialog a.host
    (path, ⟨host, a.dialogs ++ [dialog]⟩)
  note line a := { a with host := Host.note line a.host }
  announces a := Host.announces a.host

/-- Between two hosts, no path was asked for to load a command file from. -/
def Asked.LoadsNothing {H : Type} (a a' : Asked H) : Prop :=
  ∃ dialogs, a'.dialogs = a.dialogs ++ dialogs ∧ Dialog.loadCommands ∉ dialogs

theorem Asked.LoadsNothing.refl {H : Type} (a : Asked H) : a.LoadsNothing a :=
  ⟨[], (List.append_nil _).symm, List.not_mem_nil⟩

theorem Asked.keptOffLoading {H : Type} [Host H] (a : Asked H) :
    Host.KeptOffLoading a.LoadsNothing where
  report _ _ h := h
  note _ _ h := h
  confirm _ _ h := h
  pick {dialog a'} hdialog h := by
    obtain ⟨dialogs, heq, hnot⟩ := h
    have hpick : (Host.pick dialog a').2.dialogs = a'.dialogs ++ [dialog] := rfl
    refine ⟨dialogs ++ [dialog], by rw [hpick, heq, List.append_assoc], ?_⟩
    simpa [hnot] using hdialog.symm

namespace Session

variable {R H : Type} [Scalar R] [Host H]

/-! ## Statements and scripts that call each other -/

/-- How statements are done. -/
abbrev Obeying (R H : Type) := Session R H → Statement → Origin → Outcome × Session R H

/-- Does a statement on a line of a script, in a given way. -/
def scriptStepWith (obey : Obeying R H) (line : ScriptLine)
    (state : List LineError × Session R H) (statement : Statement) :
    List LineError × Session R H :=
  match obey state.2 statement (.line line.number) with
  | (.rejected e, s) => (state.1 ++ [line.errorAt e], s)
  | (_, s) => (state.1, s)

/-- Does the statements of a line of a script, in a given way. -/
def scriptLineWith (obey : Obeying R H) (state : List LineError × Session R H)
    (line : ScriptLine) : List LineError × Session R H :=
  line.statements.foldl (scriptStepWith obey line) state

/-- Runs the text of a script, whose statements are done in a given way. -/
def runScriptWith (obey : Obeying R H) (s : Session R H) (text : String) :
    List LineError × Session R H :=
  let (errors, after) :=
    (Script.read text).foldl (scriptLineWith obey) ([], { s with loading := true })
  (errors, { after with loading := s.loading })

/-- Does a statement; those of a command file that it loads are done in a given way. -/
def obeyBy (obey : Obeying R H) : Obeying R H :=
  fun s => s.obeyWith (loadCommandsWith (runScriptWith obey))

/-- Does a statement by calls that go so many command files deep; `beyond` loads those that lie
    deeper. -/
def obeyWithin (beyond : Session R H → Outcome × Session R H) : Nat → Obeying R H
  | 0 => fun s => s.obeyWith beyond
  | depth + 1 => obeyBy (obeyWithin beyond depth)

/-- What a session is called for. -/
inductive Call (R H : Type) where
  | statement (s : Session R H) (statement : Statement) (origin : Origin)
  | load (s : Session R H)
  | script (s : Session R H) (text : String)

/-- The first call makes the second. -/
inductive Call.Makes : Call R H → Call R H → Prop
  /-- The statement is one that loads a command file. -/
  | load {s : Session R H} {statement : Statement} {origin : Origin}
      (h : s.commandOf statement origin = some (.session .loadCommands)) :
      Makes (.statement s statement origin) (.load s)
  /-- A path is given, and there is a text to be read. -/
  | script {s asked : Session R H} {path : Path} {text : String}
      (hpick : s.pick .loadCommands = (some path, asked))
      (hread : asked.world.disk.readText path = .ok text) : Makes (.load s) (.script asked text)
  /-- The statements of the script before this one have been done. -/
  | statement {s : Session R H} {text : String} {done rest : List (ScriptLine × Statement)}
      {line : ScriptLine} {statement : Statement}
      (h : Script.statements (Script.read text) = done ++ (line, statement) :: rest) :
      Makes (.script s text) (.statement
        (done.foldl (fun s x => (s.obey x.2 (.line x.1.number)).2) { s with loading := true })
        statement (.line line.number))

/-- How many calls deep a call can go. -/
def Call.rank : Call R H → Nat
  | statement s _ _ => if s.loading then 0 else 3
  | script _ _ => 1
  | load _ => 2

/-! ## While a script is being run -/

/-- Only a statement that loads a command file asks how that is done. -/
theorem obeyWith_eq_of_ne_load {s : Session R H} {statement : Statement} {origin : Origin}
    (h : s.commandOf statement origin ≠ some (.session .loadCommands))
    (load load' : Session R H → Outcome × Session R H) :
    s.obeyWith load statement origin = s.obeyWith load' statement origin := by
  cases hc : s.commandOf statement origin with
  | none =>
    obtain ⟨e, he, hobey⟩ := obeyWith_of_commandOf_eq_none load hc
    rw [hobey, obeyWith, he]
  | some c =>
    rw [obeyWith_of_commandOf load hc, obeyWith_of_commandOf load' hc]
    exact s.execute_eq_of_ne_load (fun hload => h (hload ▸ hc)) load load'

/-- While a script is being run, no statement asks. -/
theorem obeyWith_eq_of_loading {s : Session R H} (h : s.loading = true)
    (load load' : Session R H → Outcome × Session R H) (statement : Statement)
    (origin : Origin) :
    s.obeyWith load statement origin = s.obeyWith load' statement origin :=
  obeyWith_eq_of_ne_load (commandOf_ne_load h statement origin) load load'

theorem obey_eq_obeyInScript {s : Session R H} (h : s.loading = true) (statement : Statement)
    (origin : Origin) : s.obey statement origin = s.obeyInScript statement origin :=
  obeyWith_eq_of_loading h _ _ statement origin

theorem fst_obey_loadcmd {s : Session R H} (h : s.loading = true) (args : List String)
    (origin : Origin) : (s.obey ⟨"loadcmd", args⟩ origin).1 = .rejected .nestedLoad := by
  have hvalid : Statement.validateInScript ⟨"loadcmd", args⟩ = .error .nestedLoad := rfl
  rw [obey_eq_obeyInScript h]
  exact (fst_obeyInScript_eq_rejected_iff h _ _ _).2 hvalid

/-- The statements of a script are done one after another, as `obey` does them. -/
theorem foldl_obey_eq {s : Session R H} (h : s.loading = true)
    (statements : List (ScriptLine × Statement)) :
    statements.foldl (fun s x => (s.obey x.2 (.line x.1.number)).2) s =
      statements.foldl stepInScript s ∧ (statements.foldl stepInScript s).loading = true := by
  induction statements generalizing s with
  | nil => exact ⟨rfl, h⟩
  | cons x rest ih =>
    rw [List.foldl_cons, List.foldl_cons, obey_eq_obeyInScript h]
    exact ih (loading_stepInScript h x)

/-! ## The mark of a session -/

/-- A script leaves the mark of a session as it was. -/
theorem loading_runScript (s : Session R H) (text : String) :
    (s.runScript text).2.loading = s.loading := by
  rw [snd_runScript]

omit [Scalar R] in
theorem loading_of_scriptOf? {s asked : Session R H} {statement : Statement} {origin : Origin}
    {text : String} (h : s.scriptOf? statement origin = some (asked, text)) :
    asked.loading = s.loading := by
  obtain ⟨path, w, hpick⟩ := s.exists_pick .loadCommands
  rw [scriptOf?, if_pos (commandOf_of_scriptOf? h), hpick] at h
  cases path with
  | none => cases h
  | some path =>
    obtain ⟨_, -, hasked⟩ := Option.map_eq_some_iff.1 h
    rw [← (Prod.mk.inj hasked).1]

/-- So does a statement, also one that loads a command file. -/
theorem loading_obey (s : Session R H) (statement : Statement) (origin : Origin) :
    (s.obey statement origin).2.loading = s.loading := by
  cases h : s.scriptOf? statement origin with
  | none => exact (change_of_scriptOf?_eq_none h).loading_eq
  | some x =>
    rw [(change_of_scriptOf? h).2.loading_eq, loading_runScript, loading_of_scriptOf? h]

/-! ## The circle of calls -/

/-- The statements that a script calls for are done while it is being run. -/
theorem Call.Makes.loading {s t : Session R H} {text : String} {statement : Statement}
    {origin : Origin} (h : (Call.script s text).Makes (.statement t statement origin)) :
    t.loading = true := by
  cases h with
  | statement _ =>
    have hmarked : { s with loading := true }.loading = true := rfl
    obtain ⟨hstates, hloading⟩ := foldl_obey_eq hmarked _
    rw [hstates]
    exact hloading

theorem Call.Makes.rank_lt {caller callee : Call R H} (h : caller.Makes callee) :
    callee.rank < caller.rank := by
  cases h with
  | @load s statement origin hc =>
    -- While a script is being run, the statement would not be one that loads.
    have hloading : s.loading = false :=
      Bool.eq_false_iff.2 fun hloading => commandOf_ne_load hloading statement origin hc
    rw [rank, rank, hloading]
    decide
  | script _ _ => exact Nat.lt_succ_self 1
  | statement hread =>
    rw [rank, if_pos (Makes.statement hread).loading]
    exact Nat.zero_lt_one

/-- Calls come to an end. -/
theorem Call.wellFounded_makes :
    WellFounded fun callee caller : Call R H => caller.Makes callee :=
  Subrelation.wf (fun h => h.rank_lt) (measure Call.rank).wf

theorem Call.rank_lt_of_transGen {caller callee : Call R H}
    (h : Relation.TransGen Call.Makes caller callee) : callee.rank < caller.rank := by
  induction h with
  | single h => exact h.rank_lt
  | tail _ h ih => exact Nat.lt_trans h.rank_lt ih

/-- A script is run alike in all ways that do the statements alike that it calls for. -/
theorem runScriptWith_eq {obey : Obeying R H} {s : Session R H} {text : String}
    (h : ∀ t statement origin, (Call.script s text).Makes (.statement t statement origin) →
      obey t statement origin = t.obey statement origin) :
    runScriptWith obey s text = s.runScript text := by
  have flat (step : ScriptLine → List LineError × Session R H → Statement →
        List LineError × Session R H) (lines : List ScriptLine)
      (state : List LineError × Session R H) :
      lines.foldl (fun state line => line.statements.foldl (step line) state) state =
        (Script.statements lines).foldl (fun state x => step x.1 state x.2) state := by
    rw [Script.statements, List.foldl_flatMap]
    simp only [List.foldl_map]
  let marked : Session R H := { s with loading := true }
  -- The induction is on the statements that are left; those done before determine the state.
  have all (done rest : List (ScriptLine × Statement))
      (hread : Script.statements (Script.read text) = done ++ rest) (errors : List LineError) :
      rest.foldl (fun state x => scriptStepWith obey x.1 state x.2)
          (errors, done.foldl stepInScript marked) =
        rest.foldl (fun state x => scriptStep x.1 state x.2)
          (errors, done.foldl stepInScript marked) := by
    induction rest generalizing done errors with
    | nil => rfl
    | cons x rest ih =>
      obtain ⟨hstates, hloading⟩ := foldl_obey_eq (s := marked) rfl done
      have hstep : scriptStepWith obey x.1 (errors, done.foldl stepInScript marked) x.2 =
          scriptStep x.1 (errors, done.foldl stepInScript marked) x.2 := by
        have hobey := h _ _ _ (.statement hread)
        rw [hstates, obey_eq_obeyInScript hloading] at hobey
        show (match obey (done.foldl stepInScript marked) x.2 (.line x.1.number) with
          | (.rejected e, s) => (errors ++ [x.1.errorAt e], s)
          | (_, s) => (errors, s)) = _
        rw [hobey]
        rfl
      have hnext : (scriptStep x.1 (errors, done.foldl stepInScript marked) x.2).2 =
          (done ++ [x]).foldl stepInScript marked := by
        rw [snd_scriptStep, List.foldl_append]
        rfl
      rw [List.foldl_cons, List.foldl_cons, hstep, ← Prod.eta (scriptStep _ _ _), hnext]
      exact ih (done ++ [x]) (by rw [hread, List.append_assoc, List.singleton_append]) _
  have hfold : (Script.read text).foldl (scriptLineWith obey) ([], marked) =
      (Script.read text).foldl scriptLine ([], marked) := by
    have hlines := all [] (Script.statements (Script.read text)) (List.nil_append _).symm []
    rw [← flat (scriptStepWith obey), ← flat scriptStep] at hlines
    exact hlines
  rw [runScriptWith, runScript, hfold]

/-- A statement is done alike in all ways that agree on the calls it leads to. -/
theorem obeyBy_eq {obey : Obeying R H} {s : Session R H} {statement : Statement}
    {origin : Origin}
    (h : ∀ t statement' origin', Relation.TransGen Call.Makes (.statement s statement origin)
        (.statement t statement' origin') → obey t statement' origin' = t.obey statement' origin') :
    obeyBy obey s statement origin = s.obey statement origin := by
  by_cases hc : s.commandOf statement origin = some (.session .loadCommands)
  · rw [obeyBy, Session.obey, obeyWith_of_commandOf _ hc, obeyWith_of_commandOf _ hc]
    show s.loadCommandsWith (runScriptWith obey) = s.loadCommandsWith runScript
    rw [loadCommandsWith, loadCommandsWith]
    split
    · rfl
    · next path asked hpick =>
      split
      · rfl
      · next text hread =>
        have hscript : runScriptWith obey asked text = asked.runScript text :=
          runScriptWith_eq fun t statement' origin' hmakes =>
            h t statement' origin' (((Relation.TransGen.single (.load hc)).tail
              (.script hpick hread)).tail hmakes)
        rw [hscript]
  · exact obeyWith_eq_of_ne_load hc _ _

/-- What a statement leads to is done while a script is being run. -/
theorem loading_of_transGen {s t : Session R H} {statement statement' : Statement}
    {origin origin' : Origin} (h : Relation.TransGen Call.Makes (.statement s statement origin)
      (.statement t statement' origin')) : t.loading = true := by
  cases h with
  | single h => cases h
  | @tail caller _ _ h =>
    cases caller with
    | script s text => exact h.loading
    | statement | load => cases h

/-- Calls may go as deep as they like, those of one command file are all there are. -/
theorem obeyWithin_eq (beyond : Session R H → Outcome × Session R H) (depth : Nat)
    (s : Session R H) (statement : Statement) (origin : Origin) :
    obeyWithin beyond (depth + 1) s statement origin = s.obey statement origin := by
  refine obeyBy_eq fun t statement' origin' h => ?_
  have hloading := loading_of_transGen h
  cases depth with
  | zero => exact obeyWith_eq_of_loading hloading _ _ _ _
  | succ depth => exact obeyWith_eq_of_loading hloading _ _ _ _

/-! ## To the end -/

/-- Every statement of a script has its turn. -/
theorem length_turnsInScript (s : Session R H) (statements : List (ScriptLine × Statement)) :
    (s.turnsInScript statements).length = statements.length := by
  induction statements generalizing s with
  | nil => rfl
  | cons x rest ih => exact congrArg (· + 1) (ih _)

/-- Every statement of a line has its outcome. -/
theorem length_fst_runLine (s : Session R H) (line : String) :
    (s.runLine line).1.length = (Statement.readAll line).length := by
  have all (statements : List Statement) (state : List Outcome × Session R H) :
      (statements.foldl lineStep state).1.length = state.1.length + statements.length := by
    induction statements generalizing state with
    | nil => rfl
    | cons statement statements ih =>
      rw [List.foldl_cons, ih, lineStep, List.length_append, List.length_singleton,
        List.length_cons, Nat.add_assoc, Nat.add_comm 1]
  rw [runLine, all]
  exact Nat.zero_add _

/-- Command files never nest, and everything is done to its end. The calls that a statement leads
    to come to an end, none for a command file lies behind another one, and what the session does
    is what calls do that go as deep as they like, or one command file deep. While a script is
    being run, a statement makes no call, no path is asked for to load a command file from, and a
    request to load one is refused. A statement and a script leave the mark that a script is being
    run as they found it. -/
theorem command_files_never_nest :
    (WellFounded fun callee caller : Call R H => caller.Makes callee) ∧
    (∀ s t : Session R H, ¬Relation.TransGen Call.Makes (.load s) (.load t)) ∧
    (∀ (s : Session R H) (statement : Statement) (origin : Origin),
      obeyBy obey s statement origin = s.obey statement origin ∧
      (∀ beyond depth, obeyWithin beyond (depth + 1) s statement origin =
        s.obey statement origin) ∧
      (s.obey statement origin).2.loading = s.loading) ∧
    (∀ (s : Session R H) (text : String),
      runScriptWith obey s text = s.runScript text ∧
      (s.runScript text).2.loading = s.loading ∧
      (s.turnsOfScript text).length = (Script.statements (Script.read text)).length) ∧
    (∀ (s : Session R H) (line : String),
      (s.runLine line).1.length = (Statement.readAll line).length) ∧
    (∀ (s : Session R H) (statement : Statement) (origin : Origin), s.loading = true →
      (∀ call, ¬(Call.statement s statement origin).Makes call) ∧
      ∀ args, (s.obey ⟨"loadcmd", args⟩ origin).1 = .rejected .nestedLoad) ∧
    (∀ (s : Session R (Asked H)) (statement : Statement) (origin : Origin), s.loading = true →
      s.world.host.LoadsNothing (s.obey statement origin).2.world.host) ∧
    ∀ (s : Session R (Asked H)) (text : String),
      s.world.host.LoadsNothing (s.runScript text).2.world.host := by
  refine ⟨Call.wellFounded_makes, fun s t h => ?_, fun s statement origin => ?_,
    fun s text => ?_, length_fst_runLine, fun s statement origin hloading => ⟨?_, ?_⟩,
    fun s statement origin hloading => ?_, fun s text => ?_⟩
  · exact Nat.lt_irrefl 2 (Call.rank_lt_of_transGen h)
  · exact ⟨obeyBy_eq fun _ _ _ _ => rfl, fun beyond depth => obeyWithin_eq beyond depth s _ _,
      loading_obey s statement origin⟩
  · exact ⟨runScriptWith_eq fun _ _ _ _ => rfl, loading_runScript s text,
      length_turnsInScript _ _⟩
  · intro call h
    cases h with
    | load hc => exact commandOf_ne_load hloading statement origin hc
  · exact fun args => fst_obey_loadcmd hloading args origin
  · rw [obey_eq_obeyInScript hloading]
    exact host_obeyInScript s.world.host.keptOffLoading hloading (.refl _) statement origin
  · exact host_runScript s.world.host.keptOffLoading (.refl _) text

/-- A file names itself: it is loaded once, and the statements around that one are done. -/
theorem command_files_never_nest_itself :
    let file := Text.encode "move 5\nloadcmd\nmove 6\n"
    let w : World (Asked Console) := ⟨⟨⟨Text.encode "f\nf\n", "", false⟩, []⟩,
      ⟨[([Text.encode "f"], .file file)], [], []⟩, Journal.silent⟩
    let s : Session Float (Asked Console) := ofSettings Settings.standard w
    let loaded := s.runLine "loadcmd; left"
    let marked : Session Float (Asked Console) := { s with loading := true }
    loaded.1 = [.fileDone, .drawn 1] ∧
      loaded.2.timeline.entries = [.move 5, .move 6, .left 90] ∧
      loaded.2.world.host.dialogs = [.loadCommands] ∧
      loaded.1.length = (Statement.readAll "loadcmd; left").length ∧
      (marked.obey ⟨"loadcmd", []⟩ .user).1 = .rejected .nestedLoad ∧
      marked.world.host.LoadsNothing (marked.obey ⟨"loadcmd", []⟩ .user).2.world.host := by
  intro file w s loaded marked
  obtain ⟨-, -, -, -, hlength, hmarked, -, -⟩ :=
    command_files_never_nest (R := Float) (H := Asked Console)
  obtain ⟨-, -, -, -, -, -, hasked, -⟩ := command_files_never_nest (R := Float) (H := Console)
  have hloaded : loaded.1 = [.fileDone, .drawn 1] ∧
      loaded.2.timeline.entries = [.move 5, .move 6, .left 90] ∧
      loaded.2.world.host.dialogs = [.loadCommands] := by
    decide +kernel
  obtain ⟨houtcomes, hentries, hdialogs⟩ := hloaded
  exact ⟨houtcomes, hentries, hdialogs, hlength s "loadcmd; left",
    (hmarked marked ⟨"loadcmd", []⟩ .user rfl).2 [], hasked marked ⟨"loadcmd", []⟩ .user rfl⟩

end Session

end Turtle
