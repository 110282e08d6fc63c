import EntityForge.Files.Machine

/-! # Documents from files

A document is read from a file as UTF-8, without a byte order mark and with line feeds between its
lines.
-/

namespace EntityForge.Source

/-- The document in a file. -/
def ofFile (machine : Machine) (path : Path) : Except Failure Text :=
  match machine.has path with
  | .error cause => .error (.breakdown cause)
  | .ok false => .error (.fileNotFound path)
  | .ok true =>
      match machine.read path with
      | .error (.file fault) => .error (.source (.unreadableFile path fault))
      | .error cause => .error (.breakdown cause)
      | .ok bytes =>
          match Utf8.decode (Utf8.dropByteOrderMark bytes) with
          | .error fault => .error (.source (.undecodableFile path fault))
          | .ok decoded => .ok decoded.unifyNewlines

end EntityForge.Source
