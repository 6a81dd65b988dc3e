import DocstringTags.CommandLine.Answer

set_option autoImplicit false

namespace DocstringTags.CommandLine

def fileErrorOf : IO.Error → FileError
  | .noFileOrDirectory .. => .missing
  | .permissionDenied _ number words => .ofSystem .permissionDenied words number.toNat
  | .inappropriateType _ number _ => if number = 21 then .isFolder else .noFolder
  | e => ⟨.other, some (toString e)⟩

def readFile (path : String) : IO (Except FileError ByteArray) :=
  try
    return .ok (← IO.FS.readBinFile path)
  catch e =>
    return .error (fileErrorOf e)

def World.load (command : Command) : IO World := do
  let format ← IO.getEnv Config.formatVariable
  let baseOffset ← IO.getEnv Config.baseOffsetVariable
  let content ← match command.path? with
    | some path => readFile (Text.legible path)
    | none => pure (.error .missing)
  let setting (name : String) : Option String :=
    if name = Config.formatVariable then format
    else if name = Config.baseOffsetVariable then baseOffset
    else none
  return ⟨fun name => (setting name).map String.toUTF8, fun _ => content⟩

def perform (request : Request) : IO UInt32 := do
  let world ← match request with
    | .version => pure ⟨fun _ => none, fun _ => .error .missing⟩
    | .run command => World.load command
  let answer := request.answer world
  IO.print answer.output
  return answer.code.toUInt32

end DocstringTags.CommandLine

open DocstringTags.CommandLine in
def main (arguments : List String) : IO UInt32 :=
  match Request.ofArguments (arguments.map String.toUTF8) with
  | .ok request => perform request
  | .error e => do
    IO.eprintln ("doctag: " ++ e.message)
    return usageCode.toUInt32
