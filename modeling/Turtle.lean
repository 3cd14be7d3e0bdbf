import Turtle.Main
import Turtle.Primitive.Record
import Turtle.Proofs.Command.Surplus
import Turtle.Proofs.Console.Prompts
import Turtle.Proofs.Path.ImageName
import Turtle.Proofs.Program.Agreement
import Turtle.Proofs.Program.RoundTrip
import Turtle.Proofs.Script.Tokens
import Turtle.Proofs.Session.Composition
import Turtle.Proofs.Session.Filed
import Turtle.Proofs.Session.Heading
import Turtle.Proofs.Session.Image
import Turtle.Proofs.Session.Nesting
import Turtle.Proofs.Session.Picture
import Turtle.Proofs.Session.Steering
import Turtle.Proofs.Session.Undoing
import Turtle.Proofs.Session.Unsaved
import Turtle.Proofs.Session.Valid
import Turtle.Proofs.Shape.OwnPen
import Turtle.Proofs.Shape.Sides
import Turtle.Proofs.Shell.Placement
import Turtle.Proofs.Shell.Quitting
import Turtle.Proofs.Shell.Recall
import Turtle.Proofs.Shell.Routing
import Turtle.Proofs.Terminal.Messages
