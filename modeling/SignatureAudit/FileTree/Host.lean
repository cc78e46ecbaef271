import SignatureAudit.FileTree.Basic

/-!
# The files of a machine

Around a project stand the directories that every machine has, with its devices and its programs.
What a program does is not in its file.
-/

namespace SignatureAudit.FileNode

/-- The programs that every machine has. -/
def programNames : List String :=
  ["[", "awk", "base64", "basename", "cat", "chmod", "cmp", "comm", "cp", "cut", "dash", "diff",
   "dirname", "echo", "egrep", "env", "expand", "expr", "false", "fgrep", "find", "fold", "grep",
   "head", "id", "ln", "ls", "mawk", "mkdir", "mktemp", "mv", "nice", "nl", "nohup", "od", "paste",
   "printenv", "printf", "pwd", "readlink", "realpath", "rev", "rm", "rmdir", "sed", "seq",
   "setsid", "sh", "sleep", "sort", "stat", "stdbuf", "sync", "tac", "tail", "tee", "test",
   "timeout", "touch", "tr", "true", "truncate", "tty", "uname", "uniq", "wc", "which", "whoami",
   "xargs", "yes"]

/-- The directories that every machine has. -/
def host : FileNode :=
  let empty : FileNode := .directory []
  let device : FileNode := .file .empty false
  let programs : FileNode := .directory (programNames.map fun name => (name, .file .empty true))
  .directory [
    ("bin", programs),
    ("dev", .directory [("fd", empty), ("full", device), ("null", device), ("random", device),
      ("shm", empty), ("stderr", device), ("stdin", device), ("stdout", device), ("tty", device),
      ("urandom", device), ("zero", device)]),
    ("etc", empty), ("home", empty), ("lib", empty), ("mnt", empty), ("opt", empty),
    ("proc", empty), ("root", empty), ("run", empty), ("sbin", empty), ("srv", empty),
    ("sys", empty), ("tmp", empty),
    ("usr", .directory [("bin", programs), ("include", empty), ("lib", empty),
      ("local", .directory [("bin", empty), ("lib", empty), ("sbin", empty), ("share", empty)]),
      ("sbin", empty), ("share", empty)]),
    ("var", .directory [("lib", empty), ("log", empty), ("run", empty), ("tmp", empty)])]

end SignatureAudit.FileNode
