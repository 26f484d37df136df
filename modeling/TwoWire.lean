import TwoWire.Bench
import TwoWire.Proofs.ExactlyOnce
import TwoWire.Proofs.CaptureSafety
import TwoWire.Proofs.Averages
import TwoWire.Proofs.FreshSlots
import TwoWire.Proofs.WireOrder
import TwoWire.Proofs.Registry
import TwoWire.Proofs.SensorLife
import TwoWire.Proofs.Waiting
import TwoWire.Proofs.Refusals
import TwoWire.Proofs.Independence
import TwoWire.Proofs.Cancellation
import TwoWire.Proofs.StrayFlags
import TwoWire.Proofs.Configuration
import TwoWire.Proofs.MemoryFrame
import TwoWire.Proofs.Pacing
import TwoWire.Proofs.BringUpCourse
import TwoWire.Proofs.StandbyCourse
import TwoWire.Proofs.Decoding
import TwoWire.Proofs.SingleBytes
import TwoWire.Proofs.NeutralCalibration
import TwoWire.Proofs.MountingCodes
import TwoWire.Proofs.Chaining
import TwoWire.Proofs.WireDecoding
import TwoWire.Proofs.RetryBudget
import TwoWire.Proofs.HandleCells
import TwoWire.Proofs.ParameterPlaces
