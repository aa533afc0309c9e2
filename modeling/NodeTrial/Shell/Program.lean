namespace NodeTrial.Shell

inductive Utility
  | sh
  | env
  | sleep
  | cat
  | echo
  | printf
  | succeed
  | fail
  | test
  | bracket
  | pwd
  | rm
  | rmdir
  | mkdir
  | touch
  | mv
  | cp
  | ls
  | chmod
  | head
  | tail
  | wc
  | seq
  | basename
  | dirname
  | kill
  deriving DecidableEq, Repr

namespace Utility

def all : List Utility :=
  [sh, env, sleep, cat, echo, printf, succeed, fail, test, bracket, pwd, rm, rmdir, mkdir, touch,
    mv, cp, ls, chmod, head, tail, wc, seq, basename, dirname, kill]

def name : Utility → String
  | sh => "sh"
  | env => "env"
  | sleep => "sleep"
  | cat => "cat"
  | echo => "echo"
  | printf => "printf"
  | succeed => "true"
  | fail => "false"
  | test => "test"
  | bracket => "["
  | pwd => "pwd"
  | rm => "rm"
  | rmdir => "rmdir"
  | mkdir => "mkdir"
  | touch => "touch"
  | mv => "mv"
  | cp => "cp"
  | ls => "ls"
  | chmod => "chmod"
  | head => "head"
  | tail => "tail"
  | wc => "wc"
  | seq => "seq"
  | basename => "basename"
  | dirname => "dirname"
  | kill => "kill"

/-- The content of the file that a utility is installed as. -/
def image (u : Utility) : List UInt8 := 0x7F :: ("ELF " ++ u.name).toUTF8.toList

def ofImage? (content : List UInt8) : Option Utility := all.find? fun u => u.image = content

end Utility

/-- A program with its arguments, ready to run. -/
structure Image where
  utility : Utility
  name : String
  args : List String
  deriving DecidableEq, Repr

end NodeTrial.Shell
