import McpConsole.Program.Script

/-!
# A program in its surroundings

A `Scene` is all that a program can see and change: the disk, the input that has not been read,
the server that answers its requests, what it has sent and what it has printed. `Script.run` plays a
script in a scene.
-/

namespace McpConsole.Program

/-- The surroundings of a program. -/
structure Scene where
  disk : Disk
  input : List Char
  server : Http.Request → Option Http.Response
  sent : List Http.Request
  printed : String

/-- The first line of a text with its end, and the rest. -/
def splitLine : List Char → List Char × List Char
  | [] => ([], [])
  | c :: cs =>
    if c = '\n' then ([c], cs)
    else
      let (line, rest) := splitLine cs
      (c :: line, rest)

/-- The scene with a changed disk, if the change was possible. -/
def Scene.change (scene : Scene) (changed : Except DiskError Disk) :
    Except DiskError Unit × Scene :=
  match changed with
  | .ok disk => (.ok (), { scene with disk := disk })
  | .error cause => (.error cause, scene)

/-- What a script gives in a scene, and the scene after it. -/
def Script.run {α : Type} : Script α → Scene → α × Scene
  | .done result, scene => (result, scene)
  | .readText path next, scene => (next (scene.disk.readText path)).run scene
  | .makeParents path next, scene =>
    let (made, scene) := scene.change (scene.disk.makeParents path)
    (next made).run scene
  | .write path content next, scene =>
    let (written, scene) := scene.change (scene.disk.write path content.toUTF8)
    (next written).run scene
  | .readLine next, scene =>
    let (line, rest) := splitLine scene.input
    (next (String.ofList line)).run { scene with input := rest }
  | .print text next, scene => next.run { scene with printed := scene.printed ++ text }
  | .send request next, scene =>
    (next (scene.server request)).run { scene with sent := scene.sent ++ [request] }

end McpConsole.Program
