import Colloquy.Command.Run
import Std.Time.DateTime.Timestamp

/-! The program: the commands on the machine it runs on. -/
namespace Colloquy

namespace Native

def fileFault : IO.Error → FileFault
  | .noFileOrDirectory .. => .notFound
  | .inappropriateType _ code _ => if code = 20 then .notAFolder else .isAFolder
  | e => .other (toString e)

def attempt (call : IO α) : IO (Except FileFault α) := do
  try return .ok (← call)
  catch e => return .error (fileFault e)

def randomName : IO String := do
  let bytes ← IO.getRandomBytes 16
  return String.ofList (bytes.toList.flatMap fun b =>
    [Nat.digitChar (b.toNat / 16), Nat.digitChar (b.toNat % 16)])

def access (path : String) : FolderAccess IO where
  shown name := name.elim path (Path.join path)
  create := attempt (IO.FS.createDirAll path)
  read name := attempt (IO.FS.readFile (Path.join path name))
  write name content := attempt (IO.FS.writeFile (Path.join path name) content)
  remove name := attempt (IO.FS.removeFile (Path.join path name))
  rename source target := attempt (IO.FS.rename (Path.join path source) (Path.join path target))
  names := attempt do
    return (← (System.mkFilePath [path]).readDir).toList.map (·.fileName)
  temporary := return "." ++ (← randomName) ++ ".tmp"

def now : IO Instant := do
  let t ← Std.Time.Timestamp.now
  let nanos := t.toNanosecondsSinceUnixEpoch.toInt
  return ⟨nanos / 1000000000, (nanos % 1000000000).toNat⟩

def host : Host IO where
  read path := attempt (IO.FS.readFile path)
  write path content := attempt (IO.FS.writeFile path content)
  isPresent path := (System.mkFilePath [path]).pathExists
  isFolder path := (System.mkFilePath [path]).isDir
  makeFolders path := attempt (IO.FS.createDirAll path)
  folder := access
  print text := IO.print text
  identifier := randomName
  now := now

def surroundings : IO Surroundings := do
  let names := ["PARLEY_FLOW_PATH", "PARLEY_LOG_LEVEL", "PARLEY_STORE_DIR"]
  let present ← names.filterMapM fun name => return (← IO.getEnv name).map (name, ·)
  return { home := (← IO.getEnv "HOME").getD "/tmp", environment := .ofList present }

end Native

end Colloquy

open Colloquy in
def main (args : List String) : IO UInt32 := do
  let ending ← Command.execute Native.host (← Native.surroundings) args
  IO.eprint ending.errorText
  return ending.code.toUInt32
