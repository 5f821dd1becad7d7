import SixAxis.Main
import SixAxis.Program.Parts
import SixAxis.Joints.Operand
import SixAxis.Proofs.InverseKinematics
import SixAxis.Proofs.TargetDeclarations
import SixAxis.Proofs.RestoredPrograms
import SixAxis.Proofs.ToolDeclarations
import SixAxis.Proofs.CarriedTargets
import SixAxis.Proofs.EscapingFaults
import SixAxis.Proofs.MovedRobots
import SixAxis.Proofs.ReportedTargets
import SixAxis.Proofs.MotionData
import SixAxis.Proofs.JudgedLimits
import SixAxis.Proofs.IndependentCalls
import SixAxis.Proofs.AcceptedTypes
import SixAxis.Proofs.WrittenNames
import SixAxis.Proofs.WrittenNumerals
import SixAxis.Proofs.ToolHistories
import SixAxis.Proofs.TurnsWithinLimits
import SixAxis.Proofs.WithinReach
import SixAxis.Proofs.RepeatedSolving
import SixAxis.Proofs.AxisNumbering
import SixAxis.Proofs.ProgramLayout
import SixAxis.Proofs.JointArithmetic
import SixAxis.Proofs.KeptSlots
import SixAxis.Proofs.ClosestTurns
import SixAxis.Proofs.RoundedNumbers
import SixAxis.Proofs.ZoneNames
import SixAxis.Proofs.DeclaredTools
import SixAxis.Proofs.MovedAxes
import SixAxis.Proofs.MountedTools
import SixAxis.Proofs.ResolvedAxes
import SixAxis.Proofs.WrittenOrientation
import SixAxis.Proofs.MoveReading
import SixAxis.Proofs.NamedSpeeds
import SixAxis.Proofs.HomeTurns
import SixAxis.Proofs.WristAngles
import SixAxis.Proofs.ElbowSides
