import Cobra.Buffer
import Cobra.Metadata
import Cobra.Timestamp
import Cobra.WholeFrameRange
import Cobra.VectorPool
import Cobra.Dsp
import Cobra.SnrVote
import Cobra.Hdr
import Cobra.HdrDelay
import Cobra.Engine.Base
import Cobra.Engine.Grid
import Cobra.Engine.Vote
import Cobra.Engine.Stripe
import Cobra.Engine.Fovs
import Cobra.Engine.Handshake
import Cobra.Engine.Ownership
import Cobra.Control
import Cobra.Net.Pipeline
import Cobra.Net.Streamer
import Cobra.Net.Queue
import Cobra.Net.TypeC
import Cobra.Smooth.Model
import Cobra.Smooth.Writes
import Cobra.Smooth.Accelerated
import Cobra.Smooth.General
import Cobra.Smooth.LoopBounds
import Cobra.Phase
import Cobra.Temperature
import Cobra.Binning
import Cobra.WindowFilter
import Cobra.MinMax
import Cobra.Median
import Cobra.NearestNeighbor
import Cobra.FillRows
import Cobra.Output
