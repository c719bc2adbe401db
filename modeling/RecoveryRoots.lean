import RecoveryRoots.CString
import RecoveryRoots.Table
import RecoveryRoots.World
import RecoveryRoots.Mount
import RecoveryRoots.Package
import RecoveryRoots.Probe
import RecoveryRoots.Format
import RecoveryRoots.Path
import RecoveryRoots.System
import RecoveryRoots.Calls
import RecoveryRoots.Memory
