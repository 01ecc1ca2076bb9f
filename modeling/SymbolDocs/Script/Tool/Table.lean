import SymbolDocs.Script.Tool.Files
import SymbolDocs.Script.Tool.Grep
import SymbolDocs.Script.Tool.Recode
import SymbolDocs.Script.Tool.Sed
import SymbolDocs.Script.Tool.Sort
import SymbolDocs.Script.Tool.Text
import SymbolDocs.Script.Tool.Value

namespace SymbolDocs.Script

def tool? : String → Option Tool
  | "[" => some Tool.bracket
  | "basename" => some Tool.basename
  | "cat" => some Tool.cat
  | "chmod" => some Tool.chmod
  | "cmp" => some Tool.cmp
  | "comm" => some Tool.comm
  | "cp" => some Tool.cp
  | "cut" => some Tool.cut
  | "dirname" => some Tool.dirname
  | "echo" => some Tool.echo
  | "egrep" => some (Tool.grepWith true)
  | "expr" => some Tool.expr
  | "false" => some Tool.refuse
  | "fold" => some Tool.fold
  | "grep" => some (Tool.grepWith false)
  | "head" => some Tool.head
  | "id" => some Tool.id
  | "ln" => some Tool.ln
  | "ls" => some Tool.ls
  | "mkdir" => some Tool.mkdir
  | "mktemp" => some Tool.mktemp
  | "mv" => some Tool.mv
  | "nl" => some Tool.nl
  | "paste" => some Tool.paste
  | "printenv" => some Tool.printenv
  | "printf" => some Tool.printf
  | "pwd" => some Tool.pwd
  | "readlink" => some Tool.readlink
  | "realpath" => some Tool.realpath
  | "rev" => some Tool.rev
  | "rm" => some Tool.rm
  | "rmdir" => some Tool.rmdir
  | "sed" => some Tool.sed
  | "seq" => some Tool.seq
  | "sleep" => some Tool.sleep
  | "sort" => some Tool.sort
  | "sync" => some Tool.succeed
  | "tac" => some Tool.tac
  | "tail" => some Tool.tail
  | "tee" => some Tool.tee
  | "test" => some Tool.test
  | "touch" => some Tool.touch
  | "tr" => some Tool.tr
  | "true" => some Tool.succeed
  | "uname" => some Tool.uname
  | "uniq" => some Tool.uniq
  | "wc" => some Tool.wc
  | "whoami" => some Tool.whoami
  | "yes" => some Tool.yes
  | _ => none

end SymbolDocs.Script
