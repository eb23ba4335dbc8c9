import KeyMenu.Sh.Edit.Editing
import KeyMenu.Sh.Rules.Run
import KeyMenu.Sh.Snippet.Program
import KeyMenu.Sh.Tool.Archive
import KeyMenu.Sh.Tool.Compare
import KeyMenu.Sh.Tool.Encoding
import KeyMenu.Sh.Tool.Find
import KeyMenu.Sh.Tool.Settings
import KeyMenu.Sh.Tool.Sort
import KeyMenu.Sh.Tool.Stream
import KeyMenu.Sh.Tool.Value
import KeyMenu.Sh.Wrapper

/-!
# Programs

The programs that lie on the disk, by name: those that need no other program (`tool?`), and those
that run others (`agent?`).
-/

namespace KeyMenu.Sh

/-- The programs that look at files. -/
def lookTools : List (String × Tool) :=
  [("cat", cat), ("ls", list), ("dir", list), ("vdir", fun words => list ("-l".toList :: words)),
    ("stat", facts), ("realpath", realPath), ("readlink", readLink), ("du", room), ("df", freeRoom),
    ("diff", differences), ("cmp", compareBytes)]

/-- The programs that change files. -/
def fileTools : List (String × Tool) :=
  [("touch", touch), ("mkdir", makeDirectories), ("mkfifo", makeQueues), ("mknod", makeNode),
    ("rmdir", removeDirectories), ("rm", removeFiles), ("unlink", unlink),
      ("mv", move), ("cp", copy),
    ("ln", makeNames), ("link", makeName), ("install", install), ("chmod", changeMode),
    ("chown", changeOwner "chown" false), ("chgrp", changeOwner "chgrp" true), ("truncate", resize),
    ("fallocate", allocate), ("mktemp", makeTemporary), ("dd", copyBlocks), ("sync", synchronize),
    ("patch", applyChanges)]

/-- The programs that work on lines and bytes. -/
def textTools : List (String × Tool) :=
  [("head", showBeginnings), ("tail", showEnds), ("wc", countAll), ("cut", cutColumns),
    ("paste", paste), ("nl", numberLines), ("fold", fold), ("expand", spread),
    ("unexpand", gatherBlanks), ("tac", backwards), ("rev", mirror), ("tee", duplicate),
    ("fmt", fillLines), ("sort", sort), ("uniq", unique), ("comm", shareLines), ("join", joinLines),
    ("tsort", orderNames), ("shuf", shuffle), ("tr", translate), ("od", dump),
    ("strings", showStrings), ("split", split), ("csplit", splitAtLines),
    ("grep", search "grep" none false), ("egrep", search "egrep" (some 'E') false),
    ("fgrep", search "fgrep" (some 'F') false), ("rgrep", search "rgrep" none true)]

/-- The programs that pack texts and put digests in their place. -/
def packTools : List (String × Tool) :=
  let gzip := Packed.packFiles Packed.usual
  let bzip2 := Packed.packFiles Packed.blockwise
  let xz := Packed.packFiles Packed.chained
  [("gzip", gzip "gzip" false false), ("gunzip", gzip "gunzip" true false),
    ("uncompress", gzip "uncompress" true false), ("zcat", gzip "zcat" true true),
    ("bzip2", bzip2 "bzip2" false false), ("bunzip2", bzip2 "bunzip2" true false),
    ("bzcat", bzip2 "bzcat" true true), ("xz", xz "xz" false false), ("unxz", xz "unxz" true false),
    ("xzcat", xz "xzcat" true true), ("zgrep", Packed.searchPacked), ("tar", archive),
    ("md5sum", digestFiles "md5sum" "md5"), ("sha1sum", digestFiles "sha1sum" "sha1"),
    ("sha224sum", digestFiles "sha224sum" "sha224"),
      ("sha256sum", digestFiles "sha256sum" "sha256"),
    ("sha384sum", digestFiles "sha384sum" "sha384"),
      ("sha512sum", digestFiles "sha512sum" "sha512"),
    ("b2sum", digestFiles "b2sum" "blake2b"), ("cksum", digestFiles "cksum" ""), ("sum", sumFiles),
    ("base64", spellBytes "base64" (some .base64)), ("base32", spellBytes "base32" (some .base32)),
    ("basenc", spellBytes "basenc" none)]

/-- The programs for values. -/
def valueTools : List (String × Tool) :=
  [("expr", calculate), ("seq", countUp), ("factor", showFactors), ("numfmt", convertNumbers),
    ("basename", baseNames), ("dirname", directoryNames), ("pathchk", checkPaths),
    ("getopt", arrangeOptions), ("sleep", sleep), ("date", tellTime), ("printenv", showVariables),
    ("which", showPlaces), ("id", showUser), ("groups", showGroups), ("uname", showMachine),
    ("whoami", tells "whoami" "" [] "root"),
      ("hostname", tells "hostname" "afiIsdy" [] "localhost"),
    ("arch", tells "arch" "" [] "x86_64"), ("nproc", tells "nproc" "" ["all", "ignore:"] "1"),
    ("hostid", tells "hostid" "" [] "007f0100"), ("users", tells "users" "" [] ""),
    ("who", tells "who" "abdHlmpqrstTu" [] ""), ("tty", showTerminal), ("yes", repeatedly),
    ("printf", writeFormat), ("kill", signalProcesses), ("logname", fun _ s =>
      s.complain 1 "logname".toList "no login name".toList),
    ("stty", needTerminal "stty" 1), ("clear", fun _ s =>
      s.withStatus (if (s.value? "TERM".toList).isSome then 0 else 1)), ("iconv", reencode),
    ("getconf", showLimit), ("getent", showEntries), ("tput", showTerminalOrder),
    ("more", page "more" true), ("less", page "less" false), ("pwd", tellDirectory),
    ("[", closedCondition)]

/-- The programs that need no other one. -/
def plainTools : List (String × Tool) :=
  lookTools ++ fileTools ++ textTools ++ packTools ++ valueTools

/-- The programs that run others. -/
def agents : List (String × Agent) :=
  wrappers ++ [("sed", streamEdit), ("find", find), ("awk", processRules), ("mawk", processRules),
    ("nawk", processRules), ("perl", interpretSnippet)]

/-- What a program does that needs no other. -/
def tool? (name : Text) : Option Tool :=
  ((plainTools.find? fun (n, _) => n.toList == name).map Prod.snd).or (Table.get? shared name)

/-- What a program does that runs others. -/
def agent? (name : Text) : Option Agent := (agents.find? fun (n, _) =>
    n.toList == name).map Prod.snd

/-- The names of the programs. -/
def toolNames : List Text :=
  (plainTools.map Prod.fst ++ agents.map Prod.fst).map String.toList ++ shared.map Prod.fst

end KeyMenu.Sh
