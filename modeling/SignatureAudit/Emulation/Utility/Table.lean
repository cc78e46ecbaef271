import SignatureAudit.Emulation.Shell.Launch
import SignatureAudit.Emulation.Utility.Columns
import SignatureAudit.Emulation.Utility.Difference
import SignatureAudit.Emulation.Utility.Dump
import SignatureAudit.Emulation.Utility.Edit.Program
import SignatureAudit.Emulation.Utility.Environment
import SignatureAudit.Emulation.Utility.Expression
import SignatureAudit.Emulation.Utility.Facts
import SignatureAudit.Emulation.Utility.Finding
import SignatureAudit.Emulation.Utility.Lines
import SignatureAudit.Emulation.Utility.Listing
import SignatureAudit.Emulation.Utility.Making
import SignatureAudit.Emulation.Utility.Mode
import SignatureAudit.Emulation.Utility.Order
import SignatureAudit.Emulation.Utility.PathName
import SignatureAudit.Emulation.Utility.Proposition
import SignatureAudit.Emulation.Utility.Record.Program
import SignatureAudit.Emulation.Utility.Removal
import SignatureAudit.Emulation.Utility.Search
import SignatureAudit.Emulation.Utility.Transfer

/-!
# The programs of a machine

All programs by their names.
-/

namespace SignatureAudit.Emulation.Utility

/-- The programs of every machine. -/
def tools : List Shell.Tool :=
  [⟨"[", bracket, false⟩, ⟨"awk", awk, true⟩, ⟨"base64", base64, false⟩,
   ⟨"basename", basename, false⟩, ⟨"cat", cat, false⟩, ⟨"chmod", chmod, false⟩, ⟨"cmp", cmp, false⟩,
   ⟨"comm", comm, false⟩, ⟨"cp", cp, false⟩, ⟨"cut", cut, false⟩, ⟨"diff", diff, false⟩,
   ⟨"dirname", dirname, false⟩, ⟨"echo", echo, false⟩, ⟨"egrep", egrep, true⟩, ⟨"env", env, false⟩,
   ⟨"expand", expand, false⟩, ⟨"expr", expr, false⟩, ⟨"false", failing, false⟩,
   ⟨"fgrep", fgrep, true⟩, ⟨"find", find, false⟩, ⟨"fold", fold, false⟩, ⟨"grep", grep, true⟩,
   ⟨"head", head, false⟩, ⟨"id", id, false⟩, ⟨"ln", ln, false⟩, ⟨"ls", ls, false⟩,
   ⟨"mawk", awk, true⟩, ⟨"mkdir", mkdir, false⟩, ⟨"mktemp", mktemp, false⟩, ⟨"mv", mv, false⟩,
   ⟨"nice", nice, false⟩, ⟨"nl", nl, false⟩, ⟨"nohup", nohup, false⟩, ⟨"od", od, false⟩,
   ⟨"paste", paste, false⟩, ⟨"printenv", printenv, false⟩, ⟨"printf", printf, false⟩,
   ⟨"pwd", pwd, false⟩, ⟨"readlink", readlink, false⟩, ⟨"realpath", realpath, false⟩,
   ⟨"rev", rev, false⟩, ⟨"rm", rm, false⟩, ⟨"rmdir", rmdir, false⟩, ⟨"sed", sed, true⟩,
   ⟨"seq", seq, false⟩, ⟨"setsid", setsid, false⟩, ⟨"sleep", sleep, false⟩, ⟨"sort", sort, false⟩,
   ⟨"stat", stat, false⟩, ⟨"stdbuf", stdbuf, false⟩, ⟨"sync", succeed, false⟩, ⟨"tac", tac, false⟩,
   ⟨"tail", tail, false⟩, ⟨"tee", tee, false⟩, ⟨"test", test, false⟩, ⟨"timeout", timeout, false⟩,
   ⟨"touch", touch, false⟩, ⟨"tr", tr, false⟩, ⟨"true", succeed, false⟩,
   ⟨"truncate", truncate, false⟩, ⟨"tty", tty, false⟩, ⟨"uname", uname, false⟩,
   ⟨"uniq", uniq, false⟩, ⟨"wc", wc, false⟩, ⟨"which", which, false⟩, ⟨"whoami", whoami, false⟩,
   ⟨"xargs", xargs, false⟩, ⟨"yes", yes, false⟩]

end SignatureAudit.Emulation.Utility
