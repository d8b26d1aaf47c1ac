import PipeQuery.CommandLine

/-! The program: reads the standard input if the request needs it, and writes the answer. -/

namespace PipeQuery

/-- All bytes of a stream, after those that were read before. -/
partial def readBytes (stream : IO.FS.Stream) (before : ByteArray) : IO ByteArray := do
  let chunk ← stream.read 65536
  if chunk.isEmpty then return before else readBytes stream (before ++ chunk)

end PipeQuery

open PipeQuery in
def main (args : List String) : IO UInt32 := do
  let request := CommandLine.request args
  let stdin ←
    if request.readsInput then do
      let bytes ← readBytes (← IO.getStdin) ByteArray.empty
      pure (String.fromUTF8? bytes)
    else pure none
  let answer := request.answer stdin
  IO.eprint (request.recordLines answer.records)
  IO.print answer.output
  IO.eprint answer.errors
  return answer.code.toUInt32
