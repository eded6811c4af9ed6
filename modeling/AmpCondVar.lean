import AmpCondVar.Basic
import AmpCondVar.Step
import AmpCondVar.Census
import AmpCondVar.Moves
import AmpCondVar.Invariant
import AmpCondVar.Preservation
import AmpCondVar.Safety
import AmpCondVar.Drain
import AmpCondVar.Failure
import AmpCondVar.Wave
import AmpCondVar.Lifecycle
import AmpCondVar.Abstract
import AmpCondVar.Refinement
import AmpCondVar.Release
import AmpCondVar.Progress
