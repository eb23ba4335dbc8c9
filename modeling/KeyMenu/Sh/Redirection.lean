import KeyMenu.Sh.Lookup
import KeyMenu.Sh.Reckoning

/-!
# Redirections

What a redirection does to the streams of a shell once its target has been expanded
(`State.redirect`); or why it cannot be followed.
-/

namespace KeyMenu.Sh

/-- The wording of a shell that a file cannot be opened. -/
def openingFault (dialect : Dialect) (isNew : Bool) (path : Text) (fault : Fault) : Text :=
  match dialect with
  | .bash => path ++ ": ".toList ++
      (if isNew && fault = .exists then "cannot overwrite existing file".toList else fault.message)
  | .dash =>
      let what := match fault, isNew with
        | .notFound, true => "Directory nonexistent".toList
        | .notFound, false => "No such file".toList
        | fault, _ => fault.message
      (if isNew then "cannot create ".toList else "cannot open ".toList) ++ path ++
        ": ".toList ++ what

namespace State

/-- A stream leads to what a path leads to. -/
def streamTo (s : State) (stream : Nat) (path : Text) (a : World.Access) : Except Text State :=
  if a.writes && s.isOn "restricted" && a.creates then
    .error (path ++ ": restricted: cannot redirect output".toList)
  else
    match s.openAt path a with
    | .ok (s, n) => .ok (s.setStream stream n)
    | .error fault => .error (openingFault s.dialect a.creates path fault)

/-- The first number that no stream has, from ten on. -/
def freeStream (s : State) : Nat :=
  ((List.range (s.streams.length + 1)).map (· + 10)).find? (fun n =>
    (s.opening? n).isNone) |>.getD 10

/-- How a new file is opened for output: one that is there already may be kept. -/
def outputAccess (s : State) : World.Access :=
  { World.Access.write with isNew := s.isOn "noclobber" }

/-- A stream becomes another one that is given by its number, or leads nowhere any more. A dash
after the number takes the other one away. -/
def copied (s : State) (stream : Nat) (target : Text) : Option (Except Text State) :=
  if target = ['-'] then some (.ok (s.closeStream stream))
  else
    let moves := target.getLast? = some '-' && s.dialect = .bash
    let digits := if moves then target.dropLast else target
    if digits.isEmpty || !digits.all Char.isDigit then none
    else
      let source := digitsValue digits
      match s.opening? source with
      | none => some (.error (target ++ ": Bad file descriptor".toList))
      | some n =>
          let s := s.setStream stream n
          some (.ok (if moves && source ≠ stream then s.closeStream source else s))

/-- Both output streams lead to a file. -/
def bothTo (s : State) (path : Text) (a : World.Access) : Except Text State := do
  let s ← s.streamTo 1 path a
  match s.opening? 1 with
  | some n => return s.setStream 2 n
  | none => return s

/-- Follows a redirection of the stream of a number. -/
def redirect (s : State) (stream : Nat) (direction : Direction) (target : Text) :
    Except Text State :=
  match direction with
  | .input => s.streamTo stream target .read
  | .output => s.streamTo stream target s.outputAccess
  | .overwrite => s.streamTo stream target .write
  | .append => s.streamTo stream target .append
  | .both => s.streamTo stream target .both
  | .copyIn =>
      (s.copied stream target).getD (.error (target ++ ": ambiguous redirect".toList))
  | .copyOut =>
      match s.copied stream target with
      | some result => result
      | none =>
          if s.dialect = .bash && stream = 1 then s.bothTo target s.outputAccess
          else .error (target ++ ": bad fd number".toList)
  | .document => .ok (s.offer stream target)
  | .line => .ok (s.offer stream (target ++ ['\n']))
  | .everything appends => s.bothTo target (if appends then .append else s.outputAccess)

/-- Follows a redirection. A stream that has a name gets a number of its own, which a variable is
given; where it is to be taken away, the variable tells which one. -/
def redirectNamed (s : State) (stream : StreamName) (direction : Direction) (target : Text) :
    Except Text State :=
  match stream with
  | .number n => s.redirect n direction target
  | .named name =>
      let closes := target = ['-'] && (direction = .copyIn || direction = .copyOut)
      if closes then
        match (s.value? name).bind (numberIn? 10) with
        | some n => .ok (s.closeStream n.toNat)
        | none => .error (name ++ ": Bad file descriptor".toList)
      else do
        let n := s.freeStream
        let s ← s.redirect n direction target
        return s.putValue name (Text.ofNat n)

/-- After a command the streams lead where they did before; those that have got names stay. -/
def withStreamsOf (outer : State) (keepsNamed : Bool) (s : State) : State :=
  let named := if keepsNamed then
      s.streams.filter fun (n, _) => 10 ≤ n && (outer.opening? n).isNone
    else []
  { s with streams := named ++ outer.streams }

end State

/-- A redirection is of a stream that has a name. -/
def Redirect.isNamed (r : Redirect) : Bool :=
  match r.stream with
  | .named _ => true
  | .number _ => false

end KeyMenu.Sh
