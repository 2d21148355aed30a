import CodeSurvey.Command.Analyze
import CodeSurvey.Command.Arguments
import CodeSurvey.Command.Languages

/-! Commands carried out on a tree of files. -/
namespace CodeSurvey

def Command.run (registry : Registry) (files : FileTree ByteArray) (color : Bool) : Command → Reply
  | analyze path options => options.run registry files color path
  | languages asJson => registry.languagesReply color asJson

/-- The tree after a command, unless the file that it writes cannot be written. -/
def Reply.applyTo (r : Reply) (files : FileTree ByteArray) : Except FileFault (FileTree ByteArray) :=
  match r.file with
  | some (path, text) => files.write path text.toUTF8
  | none => .ok files

end CodeSurvey
