import KermitSend.Storage.FileTree

/-!
Contract: finding a serial line by the name of its terminal.

Owns:
- what a path has to lead to, and the reason when it leads to something else.

Does not own: the settings of the line.
-/

namespace KermitSend.Line

open Storage (Entry FileTree PathError)

/-- A path has to lead to a terminal; a directory is refused before it is asked whether it is
one. -/
def findTerminal (files : FileTree) (path : String) : Except PathError Unit :=
  match files.resolve path with
  | .error error => .error error
  | .ok .terminal => .ok ()
  | .ok (.directory ..) => .error .isDirectory
  | .ok (.file _) | .ok .device => .error .notTerminal
  | .ok (.unopenable reason) => .error reason

end KermitSend.Line
