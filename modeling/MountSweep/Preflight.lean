import MountSweep.Environment
import MountSweep.Error
import MountSweep.Posix.FileSystem.MountPoint
import MountSweep.Service.Host

namespace MountSweep.Preflight

open Posix Time

def unmountHelper : String := "fusermount3"

def fuseDevice : String := "/dev/fuse"

def findInPath (fs : FileSystem) (env : Environment) (program : String) : Option Path :=
  (env.get? Environment.searchVariable).bind fun path ↦
    ((Path.splitAt 58 path).map (Path.joinName · program)).find? fs.isFile

def pathExists (fs : FileSystem) (p : Path) : Bool :=
  (fs.stat true p).toOption.isSome

def checkDevice (fs : FileSystem) (device : String) : Except Error Unit :=
  let p := Bytes.ofString device
  if !pathExists fs p then .error (.infrastructure (device ++ " does not exist"))
  else
    match fs.openFile { write := true } p with
    | .ok _ => .ok ()
    | .error e =>
      .error (.infrastructure (device ++ " is not accessible for reading and writing: " ++
        (SystemError.errno e).message))

def setUidBit : Nat := 0o4000

/-- Requires the right to mount: the superuser has it, and others need a helper that has it. -/
def checkHelper (fs : FileSystem) (isRoot : Bool) (helper : Path) : Except Error Unit :=
  if isRoot then .ok ()
  else
    match fs.stat true helper with
    | .error e => .error (.io (.errno e))
    | .ok s =>
      if s.mode &&& setUidBit = 0 then
        .error (.infrastructure
          (helper.display ++ " is not setuid and the harness is not running as root"))
      else .ok ()

/-- Requires what mounting takes: the helper, the device, and the right to use them. -/
def fuse (fs : FileSystem) (env : Environment) (isRoot : Bool) : Except Error Unit := do
  match findInPath fs env unmountHelper with
  | none => throw (.infrastructure (unmountHelper ++ " not found on PATH"))
  | some helper =>
    checkDevice fs fuseDevice
    checkHelper fs isRoot helper

def sshCommand (host : String) : Command :=
  { program := Bytes.ofString "ssh"
    args := ["-o", "KbdInteractiveAuthentication=no", "-o", "ChallengeResponseAuthentication=no",
      "-o", "PasswordAuthentication=no", host, "--", "true"].map Bytes.ofString }

/-- Requires a login on `remote` that needs no password and succeeds within `limit`. -/
def ssh (host : ServiceHost σ) (remote : String) (limit : Span) : Act σ (Except Error Unit) := do
  let refuse (reason : String) : Except Error Unit := .error (.infrastructure reason)
  match ← Act.ask (host.spawn (sshCommand remote) .discarded) with
  | .error e => return refuse ("Failed to run ssh: " ++ e.message)
  | .ok pid =>
    match ← Act.ask (host.await pid (some limit)) with
    | .failed e => return refuse ("Failed to run ssh: " ++ e.message)
    | .running =>
      Act.tell (host.signal pid .kill)
      return refuse ("ssh to " ++ remote ++ " did not complete within " ++ limit.display)
    | .ended s =>
      if s.isSuccess then return .ok ()
      else return refuse ("Passwordless ssh to " ++ remote ++ " failed (" ++ s.display ++ ")")

end MountSweep.Preflight
