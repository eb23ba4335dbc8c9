import KeyMenu.Sh.Store

/-!
# What processes share

All processes work on the same files, and hand each other open files (`Opening`) and queues. An open
file keeps its place for everybody who has it. Time passes only where a process waits.

* `World.openPath`: opens a file, or makes it;
* `World.ahead`, `World.advance`, `World.append`: what is left to be read, and reading and writing
it.
-/

namespace KeyMenu.Sh

/-- Where an open file leads: nowhere, to a device without end, to a file, or to a queue. -/
inductive Target
  | nothing
  | zeros
  | full
  | file (inode : Nat)
  | queue (number : Nat)
  deriving DecidableEq

/-- An open file: where it leads, the place in it, and what may be done. -/
structure Opening where
  target : Target
  place : Nat
  reads : Bool
  writes : Bool
  appends : Bool
  deriving DecidableEq

/-- What has been written into a queue: what is to be read next, and later pieces, the last one
first. -/
structure Queue where
  ahead : Text
  behind : List Text

/-- All that is left in a queue. -/
def Queue.all (q : Queue) : Text :=
  if q.behind.isEmpty then q.ahead else q.ahead ++ q.behind.reverse.flatten

/-- A signal on its way: the process that is to get it, its number, and when it has been sent. -/
structure Sent where
  process : Nat
  signal : Nat
  time : Nat
  deriving DecidableEq

/-- What processes share. The clock counts thousand-millionths of a second; `ended` are the
processes that have ended, with their statuses, and `sent` the signals on their way. A process that
is carried out once more, because it has waited, does not do again what it has done before the clock
comes to `doneUntil`; the queues up to `outerQueues` and the open files up to `outerOpenings` are
not its own. It waits no longer than to the `horizon`. -/
structure World where
  store : Store
  openings : Array Opening
  queues : Array Queue
  clock : Nat
  lastProcess : Nat
  random : Nat
  ended : List (Nat × Int)
  sent : List Sent
  doneUntil : Nat
  outerQueues : Nat
  outerOpenings : Nat
  horizon : Option Nat

namespace World

/-- A moment, in seconds, before everything that processes do: the beginning of the year 2026. -/
def epoch : Int := 1767225600

/-- A second has so many of the smallest parts of time. -/
def second : Int := 1000000000

/-- The time. -/
def now (w : World) : Int := epoch * second + w.clock

/-- What is done now has been done before. -/
def isRepeated (w : World) : Bool := w.clock < w.doneUntil

/-- A thousandth of a second has so many of the smallest parts of time. -/
def millisecond : Nat := 1000000

/-- The open file of a number. -/
def opening (w : World) (n : Nat) : Opening :=
  (w.openings[n]?).getD ⟨.nothing, 0, false, false, false⟩

/-- Opens something, and gives its number. -/
def addOpening (w : World) (o : Opening) : World × Nat :=
  ({ w with openings := w.openings.push o }, w.openings.size)

/-- Makes a queue that holds a text, and gives its number. -/
def addQueue (w : World) (t : Text) : World × Nat :=
  ({ w with queues := w.queues.push ⟨t, []⟩ }, w.queues.size)

/-- Opens a new queue that holds a text, for reading or for writing. -/
def openQueue (w : World) (t : Text) (reads : Bool) : World × Nat :=
  let (w, q) := w.addQueue t
  w.addOpening ⟨.queue q, 0, reads, !reads, !reads⟩

/-- Opens what is open for writing once more, for reading. -/
def reopened (w : World) (n : Nat) : World × Nat :=
  w.addOpening { w.opening n with place := 0, reads := true, writes := false, appends := false }

/-- The text of a file. -/
def fileText (w : World) (n : Nat) : Text :=
  match w.store.content n with
  | .plain t => t
  | .program name => [octet 0x7f] ++ "ELF".toList ++ name ++
      List.replicate (30000 + 7 * name.length) '\x00'
  | _ => []

/-- The queue of a number. -/
def queue (w : World) (n : Nat) : Queue := (w.queues[n]?).getD ⟨[], []⟩

/-- What is left to be read of an open file. -/
def ahead (w : World) (n : Nat) : Text :=
  let o := w.opening n
  match o.target with
  | .file inode => (w.fileText inode).drop o.place
  | .queue q => (w.queue q).all
  | .zeros => List.replicate 65536 '\x00'
  | .full => List.replicate 65536 '\x00'
  | .nothing => []

/-- Goes on by so many bytes in an open file. -/
def advance (w : World) (n count : Nat) : World :=
  let o := w.opening n
  match o.target with
  | .queue q => { w with queues := w.queues.modify q fun old => ⟨old.all.drop count, []⟩ }
  | .file _ => { w with openings := w.openings.modify n fun o =>
      { o with place := o.place + count } }
  | _ => w

/-- So many bytes of an open file, as far as there are any, and the world after they have been
read. -/
def taken (w : World) (n count : Nat) : Text × World :=
  let o := w.opening n
  if o.target = .zeros || o.target = .full then (List.replicate count '\x00', w)
  else
    let t := (w.ahead n).take count
    (t, w.advance n t.length)

/-- Sets the place in an open file. -/
def seek (w : World) (n place : Nat) : World :=
  { w with openings := w.openings.modify n fun o => { o with place := place } }

/-- Changes the text of a file at the present time. -/
def setText (w : World) (inode : Nat) (t : Text) : World :=
  if w.isRepeated then w
  else { w with store := w.store.update inode fun file =>
      { file with content := .plain t, modified := w.now, changed := w.now } }

/-- A text with another text at a place in it; what lies between is filled with null bytes. -/
def overwritten (before : Text) (place : Nat) (t : Text) : Text :=
  let start := before.take place
  start ++ List.replicate (place - start.length) '\x00' ++ t ++ before.drop (place + t.length)

/-- Writes into an open file; there is nothing if that cannot be done. -/
def append? (w : World) (n : Nat) (t : Text) : Option World :=
  let o := w.opening n
  if !o.writes then none
  else
    match o.target with
    | .nothing => some w
    | .zeros => some w
    | .full => if t.isEmpty then some w else none
    | .queue q =>
        if w.isRepeated && q < w.outerQueues then some w
        else some { w with queues := w.queues.modify q fun old =>
          { old with behind := t :: old.behind } }
    | .file inode =>
        let before := w.fileText inode
        let place := if o.appends then before.length else o.place
        let after := if place = before.length then before ++ t else overwritten before place t
        if t.isEmpty || (w.isRepeated && n < w.outerOpenings) then some w
        else some ((w.setText inode after).seek n (place + t.length))

/-! ### Opening files -/

/-- How a file is opened: for reading, for writing or both; what it holds may be thrown away or
added to; it may have to be new, or has to be there. -/
structure Access where
  reads : Bool
  writes : Bool
  appends : Bool
  empties : Bool
  creates : Bool
  isNew : Bool

/-- For reading. -/
def Access.read : Access := ⟨true, false, false, false, false, false⟩

/-- For writing from the beginning. -/
def Access.write : Access := ⟨false, true, false, true, true, false⟩

/-- For writing at the end. -/
def Access.append : Access := ⟨false, true, true, false, true, false⟩

/-- For reading and writing. -/
def Access.both : Access := ⟨true, true, false, false, true, false⟩

/-- Where a device leads. -/
def deviceTarget? (name : Text) : Option Target :=
  match String.ofList name with
  | "null" => some .nothing
  | "zero" => some .zeros
  | "random" => some .zeros
  | "urandom" => some .zeros
  | "full" => some .full
  | _ => none

/-- Opens the file of a number. -/
def openInode (w : World) (inode : Nat) (a : Access) : Except Fault (World × Nat) :=
  match w.store.content inode with
  | .directory _ =>
      if a.writes then .error .isADirectory
      else .ok (w.addOpening ⟨.file inode, 0, true, false, false⟩)
  | .link _ => .error .tooManyLinks
  | .device name =>
      match deviceTarget? name with
      | some target => .ok (w.addOpening ⟨target, 0, a.reads, a.writes, a.appends⟩)
      | none => .error .noDevice
  | .queue number => .ok (w.addOpening ⟨.queue number, 0, a.reads, a.writes, true⟩)
  | _ =>
      let w := if a.empties then w.setText inode [] else w
      .ok (w.addOpening ⟨.file inode, 0, a.reads, a.writes, a.appends⟩)

/-- Opens what a path leads to from a directory; a new file gets the permissions that a mask
leaves. -/
def openPath (w : World) (here mask : Nat) (path : Text) (a : Access) : Except Fault
    (World × Nat) :=
  if !a.creates then do w.openInode (← w.store.find true here path) a
  else do
    let (directory, name, found) ← w.store.place true here path
    match found with
    | some inode =>
        if a.isNew && !(w.store.content inode matches .device _) then .error .exists
        else if path.getLast? = some '/' && !w.store.isDirectory inode then .error .notADirectory
        else w.openInode inode a
    | none =>
        if path.getLast? = some '/' || name = ['.'] then .error .isADirectory
        else if w.isRepeated then .ok (w.addOpening ⟨.nothing, 0, a.reads, a.writes, a.appends⟩)
        else
          let mode := 0o666 &&& (0o777 ^^^ mask)
          let (store, inode) := w.store.create directory name (.plain []) mode w.now
          { w with store := store }.openInode inode { a with empties := false }

end World

end KeyMenu.Sh
