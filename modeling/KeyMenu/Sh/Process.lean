import KeyMenu.Run.Act
import KeyMenu.Sh.Run

/-!
# Processes

What a call comes to when it is really made: its program is looked for along the search path of its
environment, in its working directory, and gives an exit status, or is killed by a signal and gives
the negative number of it.
-/

namespace KeyMenu

namespace Sh

/-! ### The files that are there -/

/-- The programs that lie on the disk, besides those that other modules know. -/
def otherPrograms : List String :=
  ["sh", "dash", "bash", "rbash", "mount", "umount", "locale", "login", "su", "passwd",
    "dpkg", "apt-get", "apt", "lsblk", "lscpu", "chage", "chsh", "gpasswd", "newgrp", "lastlog",
    "mesg", "wall", "script", "infocmp", "tic", "tabs",
    "mcookie", "namei", "ipcs", "ipcrm", "ipcmk", "dmesg", "findmnt", "fincore", "lsof", "chattr",
    "lsattr", "gencat", "localedef", "ldd", "zdump", "tzselect", "iconvconfig", "pinky"]

/-- Programs under their names. -/
def programFiles (names : List Text) (now : Int) : List (Text × Inode) :=
  names.map fun name => (name, ⟨.program name, 0o755, 0, 0, now, now, now⟩)

/-- Puts files under names in a directory that does not have them yet. -/
def Store.fill (s : Store) (directory : Nat) (files : List (Text × Inode)) : Store :=
  let start := s.inodes.size
  let entries := (files.zipIdx).map fun ((name, _), n) => (name, start + n)
  let s : Store := ⟨s.inodes ++ (files.map Prod.snd).toArray⟩
  s.update directory fun d =>
    match d.content with
    | .directory before => { d with content := .directory (before ++ entries) }
    | _ => d

/-- The devices. -/
def deviceNames : List String := ["null", "zero", "full", "random", "urandom", "tty"]

/-- Texts that every machine has. -/
def machineTexts : List (List String × String) :=
  [(["etc", "passwd"], "root:x:0:0:root:/root:/bin/bash\ndaemon:x:1:1:daemon:/usr/sbin:" ++
      "/usr/sbin/nologin\nbin:x:2:2:bin:/bin:/usr/sbin/nologin\nnobody:x:65534:65534:nobody:" ++
      "/nonexistent:/usr/sbin/nologin\n"),
    (["etc", "group"], "root:x:0:\ndaemon:x:1:\nbin:x:2:\nnogroup:x:65534:\n"),
    (["etc", "hostname"], "localhost\n"), (["etc", "hosts"], "127.0.0.1\tlocalhost\n"),
    (["etc", "shells"], "/bin/sh\n/bin/dash\n/bin/bash\n"), (["etc", "profile"], "\n"),
    (["etc", "resolv.conf"], "nameserver 127.0.0.1\n"), (["etc", "fstab"], "\n"),
    (["etc", "bash.bashrc"], "\n"), (["root", ".bashrc"], "\n"), (["root", ".profile"], "\n"),
    (["etc", "os-release"], "NAME=\"Linux\"\nID=linux\n")]

/-- The directories that every machine has. -/
def machineDirectories : List (List String × Nat) :=
  [(["tmp"], 0o1777), (["var", "tmp"], 0o1777), (["root"], 0o700), (["home"], 0o755),
    (["usr", "local", "bin"], 0o755), (["usr", "sbin"], 0o755), (["usr", "lib"], 0o755),
    (["usr", "share"], 0o755), (["usr", "include"], 0o755), (["var", "log"], 0o755),
    (["var", "run"], 0o755), (["opt"], 0o755), (["srv"], 0o755), (["mnt"], 0o755),
    (["media"], 0o755), (["run"], 0o755), (["proc"], 0o555), (["sys"], 0o555), (["boot"], 0o755),
    (["dev", "shm"], 0o1777), (["dev", "pts"], 0o755), (["etc"], 0o755)]

/-- The files of a disk, with the programs and all that every machine has. -/
def Store.ofDisk (d : Disk) (now : Int) : Store :=
  let names (path : List String) : List Text := path.map String.toList
  let s := Store.empty now
  let s := machineDirectories.foldl (fun s (path, mode) =>
    let (s, n) := s.makeWay now root (names path)
    s.update n fun file => { file with mode := mode }) s
  let (s, bin) := s.makeWay now root (names ["usr", "bin"])
  let known := otherPrograms.map String.toList ++ toolNames
  let s := s.fill bin (programFiles known.eraseDups now)
  let (s, devices) := s.makeWay now root (names ["dev"])
  let s := s.fill devices (deviceNames.map fun name =>
    (name.toList, ⟨.device name.toList, 0o666, 0, 0, now, now, now⟩))
  let link (s : Store) (name target : String) : Store :=
    s.build [name.toList] (.link target.toList) 0o777 now
  let s := link (link (link s "bin" "usr/bin") "sbin" "usr/sbin") "lib" "usr/lib"
  let s := machineTexts.foldl (fun s (path, t) =>
      s.build (names path) (.plain t.toList) 0o644 now) s
  let own (path : List Text) : List Text := path.map octets
  let s := d.directories.reverse.foldl (fun s path => (s.makeWay now root (own path)).1) s
  let s := d.files.foldl (fun s (path, bytes) =>
    s.build (own path) (.plain (bytes.map octet)) 0o644 now) s
  (s.makeWay now root (own d.here)).1

/-! ### Processes -/

/-- The depth to which commands may stand inside commands. -/
def processFuel : Nat := 20000

/-- The number of the first process, and of the one that has started it. -/
def firstProcess : Nat := 1000

/-- The world before the first process: all files are a second old. -/
def World.start (d : Disk) : World :=
  { store := .ofDisk d (World.epoch * World.second)
    openings := #[⟨.nothing, 0, true, false, false⟩, ⟨.nothing, 0, false, true, false⟩]
    queues := #[]
    clock := 1000000000
    lastProcess := firstProcess
    random := 20260101
    ended := []
    sent := []
    doneUntil := 0
    outerQueues := 0
    outerOpenings := 0
    horizon := none }

/-- The state in which a process begins: with nothing to read, and what it writes is lost. -/
def State.start (world : World) (here : Nat) (environ : Environment) : State :=
  { world := world
    dialect := .dash
    here := here
    place := world.store.pathOf here
    mask := 0o022
    streams := [(0, 0), (1, 1), (2, 1)]
    limits := []
    vars := environ.map fun (name, value) =>
      (name, { Variable.bare with value := some (.one value), isExported := true })
    hidden := []
    functions := []
    nicknames := []
    name := []
    arguments := []
    switches := []
    process := firstProcess
    self := firstProcess
    ancestors := [firstProcess - 1]
    jobs := []
    waiting := []
    traps := []
    caught := []
    status := 0
    pipeStatuses := [0]
    innerStatus := none
    leavingStatus := none
    isTested := false
    isLast := false
    isPiped := false
    depth := 0
    level := 0
    loops := 0
    calls := 0
    callers := []
    line := 1
    sources := []
    partners := []
    readers := []
    directories := []
    lastWord := []
    optionPlace := 0
    command := .nothing
    secondsFrom := 0
    stopped := none }

/-- The status with which a process ends. -/
def State.exitStatus (s : State) : Int :=
  match s.stopped with
  | some (.killed _ signal) => -signal
  | _ => s.status % 256

/-- The directory that a process is to work in, if it is not the one that it finds itself in. -/
def State.entering (path : Option Text) (s : State) : Except LaunchFault State :=
  match path with
  | none => .ok s
  | some path =>
      if path.contains '\x00' then .error .nullCharacter
      else
        match s.inodeAt true path with
        | .error fault => .error (.ofFault fault)
        | .ok n =>
            if s.world.store.isDirectory n then
              .ok { s with here := n, place := s.world.store.pathOf n }
            else .error .notADirectory

end Sh

namespace Call

/-- Everything that a process is handed can be handed over: no text has a null character, and no
name of a variable an equals sign. -/
def isSound (call : Call) : Bool :=
  let holds (c : Char) (t : Text) : Bool := t.contains c
  !call.argv.any (holds '\x00') && !call.env.any fun (name, value) =>
    holds '=' name || holds '\x00' name || holds '\x00' value

open Sh in
/-- Makes a call on a disk, with nothing to read. -/
def perform (call : Call) (d : Disk) : Except LaunchFault Int :=
  match call.argv with
  | [] => .error .noProgram
  | name :: arguments =>
      if !call.isSound then .error .nullCharacter
      else do
        let world := World.start d
        let here := (world.store.find true Store.root
          ('/' :: Text.joinWith ['/'] (d.here.map octets))).toOption.getD Store.root
        let environ := call.env.map fun (name, value) => (octets name, octets value)
        let s ← (State.start world here environ).entering
          (call.cwd.map fun path => octets path.toText)
        let found ← s.findProgram (s.value? "PATH".toList) (octets name)
        return (runFound processFuel found (octets name) (arguments.map octets) s).exitStatus

end Call

/-- The message that a program is not there. -/
def shellNotFoundMessage (name : Text) : Text := "Shell not found: ".toList ++ name

end KeyMenu
