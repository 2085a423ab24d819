import BadCpu.AdaptiveQuery
import BadCpu.SharedCell
import BadCpu.Interleaving
import BadCpu.TrapAndEmulate
import BadCpu.TextCodes
import BadCpu.HexText
import BadCpu.ByteMemory
import BadCpu.BitKernels
import BadCpu.Instruction
import BadCpu.Decoder
import BadCpu.Emulator
import BadCpu.Cpuid
import BadCpu.SignalHandler
import BadCpu.HeaderLayout
import BadCpu.OpcodeLayout
import BadCpu.HeaderEncoding
import BadCpu.InstructionLayout
import BadCpu.ByteAccounting
import BadCpu.EmulatorRuns
import BadCpu.Dispatch
import BadCpu.Recogniser
import BadCpu.EmulationFrame
import BadCpu.InstructionBoundary
import BadCpu.EffectiveAddress
import BadCpu.OperandWidth
import BadCpu.LegacyEncoding
import BadCpu.InstructionGrammar
import BadCpu.RegisterForm
import BadCpu.Movbe
import BadCpu.ZeroCounting
import BadCpu.BmiOperations
import BadCpu.NarrowOperands
import BadCpu.VexEncoding
import BadCpu.VexDecoding
import BadCpu.EncodingEquivalence
import BadCpu.BmiRouting
import BadCpu.BmiFlags
import BadCpu.MandatoryPrefixes
import BadCpu.PartialWrites
import BadCpu.RipRelative
import BadCpu.SizeOverride
import BadCpu.AddressOverrides
import BadCpu.FeatureDetection
import BadCpu.CpuReports
import BadCpu.HandlerLifecycle
import BadCpu.HandlerInterference
import BadCpu.DispositionSafety
import BadCpu.FaultHandler
import BadCpu.FaultReports
import BadCpu.FaultRuns
import BadCpu.AssembledCode
import BadCpu.Footprint
import BadCpu.UndefinedCounts
import BadCpu.Threads
import BadCpu.Architecture
import BadCpu.EmulationExactness
import BadCpu.EmulationRefinement
import BadCpu.ProcessRuns
