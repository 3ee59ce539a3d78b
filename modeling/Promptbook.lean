import Promptbook.Main
import Promptbook.Layered.Edit
import Promptbook.Text.Quoted
import Promptbook.Proofs.Trip.Kept
import Promptbook.Proofs.Trip.Playback
import Promptbook.Proofs.Scenario.RoundTrip
import Promptbook.Proofs.Scene.Flattened
import Promptbook.Proofs.Edit.Walks
import Promptbook.Proofs.Edit.Valid
import Promptbook.Proofs.Edit.Standing
import Promptbook.Proofs.Beat.Valid
import Promptbook.Proofs.Trip.Cast
import Promptbook.Proofs.Edit.Lasting
import Promptbook.Proofs.Scene.Timed
import Promptbook.Proofs.Scene.Written
import Promptbook.Proofs.Command.Reconciled
import Promptbook.Proofs.Edit.Playing
import Promptbook.Proofs.Json.Dialects
import Promptbook.Proofs.Scenario.Converted
import Promptbook.Proofs.Record.Told
import Promptbook.Proofs.Scenario.Doubled
import Promptbook.Proofs.Command.Marks
import Promptbook.Proofs.Layered.Strict
import Promptbook.Proofs.Layered.Appended
import Promptbook.Proofs.Scenario.Mended
import Promptbook.Proofs.Edit.Removal
import Promptbook.Proofs.Edit.Following
import Promptbook.Proofs.Layered.Within
import Promptbook.Proofs.Edit.Estimated
import Promptbook.Proofs.Scene.Handled
import Promptbook.Proofs.Scene.Lengths
import Promptbook.Proofs.Scenario.Respelled
import Promptbook.Proofs.Stage.Nearest
import Promptbook.Proofs.Stage.Labelled
import Promptbook.Proofs.Stage.Usable
import Promptbook.Proofs.Beat.ReadyMade
