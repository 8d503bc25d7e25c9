import BootScript.Host.FileTree
import BootScript.Image.Program
import BootScript.Main
import BootScript.Session
import BootScript.Proofs.Reentry
import BootScript.Proofs.Restoration
import BootScript.Proofs.Registration
import BootScript.Proofs.Hiding
import BootScript.Proofs.Discipline
import BootScript.Proofs.Logic
import BootScript.Proofs.Rearrangement
import BootScript.Proofs.Failures
import BootScript.Proofs.LimitedOutput
import BootScript.Proofs.BufferLines
import BootScript.Proofs.Unlisted
import BootScript.Proofs.PlainLoop
import BootScript.Proofs.Classification
import BootScript.Proofs.Tracing
import BootScript.Proofs.Pinned
import BootScript.Proofs.Rewording
import BootScript.Proofs.Permanence
import BootScript.Proofs.Handing
import BootScript.Proofs.HostRun
import BootScript.Proofs.HostReports
import BootScript.Proofs.Ways
import BootScript.Proofs.DecodedLines
import BootScript.Proofs.Bystander
import BootScript.Proofs.Exits
import BootScript.Proofs.BootsByName
import BootScript.Proofs.LoadedFiles
import BootScript.Proofs.MergedSettings
import BootScript.Proofs.FileNames
import BootScript.Proofs.Probing
import BootScript.Proofs.Ranges
