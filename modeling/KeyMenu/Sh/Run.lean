import KeyMenu.Sh.Assignment
import KeyMenu.Sh.Braces
import KeyMenu.Sh.Launch
import KeyMenu.Sh.Redirection
import KeyMenu.Sh.Tool

/-!
# Running command texts

`run` carries out a command on the state of a shell, and `runProgram` runs any program, a shell
among them. All of them are given fuel for the depth to which commands stand inside commands; where
it is used up the process is killed, as one is that has no more room for calls.
-/

namespace KeyMenu.Sh

mutual

/-- What a word comes to. Where it stands beside a parameter, what is plain in it is cut too. -/
def expand (fuel : Nat) (splits isBeside : Bool) (w : Word) (s : State) : State × List Item :=
  match fuel with
  | 0 => (s.exhausted, [])
  | fuel + 1 =>
      let (s, items) := w.foldl (fun (s, items) piece =>
        if s.isStopped then (s, items)
        else
          let (s, more) := match piece with
            | .literal isQuoted t =>
                (s, if isQuoted || !isBeside then Item.whole isQuoted t else s.shown splits false t)
            | .output isQuoted script =>
                let (s, t) := substitute fuel script s
                (s, s.shown splits isQuoted t)
            | .calculation isQuoted expression =>
                match calculated fuel expression s with
                | (s, .ok n) => (s, s.shown splits isQuoted (Text.ofInt n))
                | (s, .error .unset) => (s.abandonUnset, [])
                | (s, .error _) => ((s.report (expression ++ ": arithmetic error".toList)).abandon,
                    [])
            | .parameter isQuoted p => expandParameter fuel splits isQuoted p s
            | .feed isRead script =>
                let (s, path) := offerFeed fuel isRead script s
                (s, Item.whole true path)
            | .elements _ => (s, [])
          (s, items ++ more)) (s, [])
      let marks := w.countP (· == .literal true [])
      let isGone := w.any Piece.isApart && items.length = marks && items.all (· == .mark)
      (s, if isGone then [] else items)

/-- The name of a file that holds the output of commands, or that they read. -/
def offerFeed (fuel : Nat) (isRead : Bool) (script : Text) (s : State) : State × Text :=
  match fuel with
  | 0 => (s.exhausted, [])
  | fuel + 1 =>
      let (world, n) := s.world.openQueue [] false
      let s := { s with world := world }
      let stream := ((List.range 50).find? fun k => (s.opening? (63 - k)).isNone).elim 63 (63 - ·)
      let path := "/dev/fd/".toList ++ Text.ofNat stream
      if isRead then
        let inner := finish fuel (runText fuel false false s.line script
          ({ s.copy with isTested := false }.setStream 1 n))
        let after := (s.adopt inner).drain n
        let (world, r) := after.world.reopened n
        ({ after with world := world, status := s.status }.setStream stream r, path)
      else ({ s with readers := s.readers ++ [(n, script)] }.setStream stream n, path)

/-- Scripts read what has been written for them. -/
def serveReaders (fuel : Nat) (s : State) : State :=
  match fuel with
  | 0 => s.exhausted
  | fuel + 1 =>
      s.readers.foldl (fun s (n, script) =>
        if s.isStopped && s.isFrozen then s
        else
          let (world, r) := s.world.reopened n
          let s := { s with world := world }
          let inner := finish fuel (runText fuel false false s.line script
            ({ s.copy with isTested := false, stopped := none }.setStream 0 r))
          let after := s.adopt inner
          if after.isStopped then after
          else { after with status := s.status, stopped := s.stopped })
        { s with readers := [] }

/-- What a parameter stands for. -/
def sourceOf (fuel : Nat) (name : Text) (s : State) : State × Source :=
  match fuel with
  | 0 => (s.exhausted, .one none)
  | fuel + 1 =>
      if isArguments name then (s, .all (name = ['*']) s.arguments)
      else
        match subscript? name with
        | none => (s.lookedAt name, .one (s.parameter? name))
        | some (name, .all isOne) => (s, .all isOne (((s.values? name).getD []).map Prod.snd))
        | some (name, .of key) =>
            match keyOf fuel name key s with
            | (s, some key) => (s, .one ((s.values? name).bind (Table.get? · key)))
            | (s, none) => (s, .one (if s.isStopped then none else some []))

/-- The text under which a value stands, if there can be one. -/
def keyOf (fuel : Nat) (name key : Text) (s : State) : State × Option Text :=
  match fuel with
  | 0 => (s.exhausted, none)
  | fuel + 1 =>
      if s.isKeyed name then
        let (s, signs) := expandBeside fuel key s
        (s, some (Signs.text signs))
      else
        match calculated fuel key s with
        | (s, .ok n) =>
            match s.keyAt? name n with
            | some key => (s, some key)
            | none => (s.report (name ++ ": bad array subscript".toList), none)
        | (s, .error _) => (s.abandon, none)

/-- What a parameter comes to. -/
def expandParameter (fuel : Nat) (splits isQuoted : Bool) (p : Parameter) (s : State) :
    State × List Item :=
  match fuel with
  | 0 => (s.exhausted, [])
  | fuel + 1 =>
      if p.isIndirect then expandIndirect fuel splits isQuoted p s
      else
        let (s, source) := sourceOf fuel p.name s
        if s.isStopped then (s, []) else expandSource fuel splits isQuoted p.name p.change source s

/-- What a parameter comes to that is named by another one. -/
def expandIndirect (fuel : Nat) (splits isQuoted : Bool) (p : Parameter) (s : State) :
    State × List Item :=
  match fuel with
  | 0 => (s.exhausted, [])
  | fuel + 1 =>
      match subscript? p.name with
      | some (name, .all isOne) =>
          (s, s.shownAll splits isQuoted (.all isOne ((s.values? name).getD []).names))
      | _ =>
          let reference := (Table.get? s.vars p.name).filter (·.isReference)
          match reference.bind (·.value) with
          | some (.one target) => (s, s.shown splits isQuoted target)
          | _ =>
              let (s, source) := sourceOf fuel p.name s
              let text? := match source with
                | .one t => t
                | .all _ values => some (Text.joinWith [' '] values)
              match text? with
              | some t =>
                  let isGood := isName t || (subscript? t).isSome ||
                    (t.length = 1 && t.all isSpecial) || (!t.isEmpty && t.all Char.isDigit)
                  if s.isStopped then (s, [])
                  else if isGood then expandParameter fuel splits isQuoted ⟨t, false, p.change⟩ s
                  else ((s.report (t ++ ": invalid variable name".toList)).abandon, [])
              | none =>
                  if s.isStopped then (s, [])
                  else ((s.report (p.name ++ ": invalid indirect expansion".toList)).abandon, [])

/-- What becomes of the values for which a parameter stands. -/
def expandSource (fuel : Nat) (splits isQuoted : Bool) (name : Text) (change : Change)
    (source : Source) (s : State) : State × List Item :=
  match fuel with
  | 0 => (s.exhausted, [])
  | fuel + 1 =>
      let beside (word : Text) (s : State) : State × List Item :=
        match Word.ofText? s.dialect isQuoted word with
        | some w => expand fuel splits (!isQuoted) (if isQuoted then w else s.homed w) s
        | none => (s.abandon, [])
      let changed (f : Text → Text) (s : State) : State × List Item :=
        if s.isStopped then (s, []) else (s, s.shownAll splits isQuoted (source.map f))
      let shown (t : Text) (s : State) : State × List Item := (s, s.shown splits isQuoted t)
      let unset (s : State) : State × List Item :=
        ((s.report (name ++ (if s.dialect = .dash then ": parameter not set"
          else ": unbound variable").toList)).abandonUnset, [])
      let counts (forEmpty : Bool) : Bool := source.counts s.dialect forEmpty
      let w := s.shellIsWide
      match change with
      | .senseless => ((s.report "bad substitution".toList).abandon, [])
      | .orElse forEmpty word => if counts forEmpty then changed id s else beside word s
      | .orAssign forEmpty word =>
          if counts forEmpty then changed id s
          else
            let (s, items) := beside word s
            let value := Signs.text (joined items)
            if s.isStopped then (s, [])
            else if isName name then
              let s := s.assignSafely name value
              shown ((s.value? name).getD value) s
            else
              match subscript? name with
              | some (base, .of key) =>
                  match keyOf fuel base key s with
                  | (s, some key) => shown value (s.assignElement base key value)
                  | (s, none) => (s.abandon, [])
              | _ => (s.abandon, [])
      | .orRefuse forEmpty =>
          if counts forEmpty then changed id s
          else ((s.report (name ++ ": parameter null or not set".toList)).abandonUnset, [])
      | .instead forEmpty word => if counts forEmpty then beside word s else (s, [])
      | .namesLike isOne =>
          let names := (Text.sorted s.vars.names).filter fun n => name.isPrefixOf n
          (s, s.shownAll splits isQuoted (.all isOne names))
      | .length =>
          match source with
          | .all _ values => shown (Text.ofNat values.length) s
          | .one (some t) => shown (Text.ofNat (characters w t.length t).length) s
          | .one none => if s.refusesUnset then unset s else shown ['0'] s
      | .transformed letter =>
          match source, letter, subscript? name with
          | .one none, 'a', _ => shown (s.attributes name) s
          | .all _ _, 'A', some (base, _) => shown ((s.declaration? base).getD []) s
          | .all _ _, 'K', some (base, _) =>
              let pairs := ((s.values? base).getD []).map fun (key, value) =>
                (if s.isKeyed base then plainQuote key else key) ++ ' ' :: doubleQuote value
              shown (Text.joinWith [' '] pairs) s
          | .all isOne _, 'k', some (base, _) =>
              let all := ((s.values? base).getD []).flatMap fun (key, value) => [key, value]
              (s, s.shownAll splits isQuoted (.all isOne all))
          | source, letter, found =>
              if source.isMissing && s.refusesUnset then unset s
              else
                let base := (found.map Prod.fst).getD name
                changed (s.transformed base letter) s
      | change =>
          if source.isMissing && s.refusesUnset then unset s
          else
            match change with
            | .without atEnd longest pattern =>
                let (s, signs) := expandBeside fuel pattern s
                let p := Pattern.ofSigns s.patternRules (signs.widened w)
                changed (fun t => narrowed w (p.trimmed false atEnd longest (widened w t))) s
            | .exchange everywhere pattern replacement =>
                let (s, signs) := expandBeside fuel pattern s
                let (s, new) := expandBeside fuel replacement s
                let rules := { s.patternRules with folds := s.isOn "nocasematch" }
                let new := if s.isOn "patsub_replacement" then new
                    else Signs.quoted (Signs.text new)
                changed (fun t => narrowed w (exchangedIn rules everywhere (signs.widened w)
                  (new.widened w) (widened w t))) s
            | .cased toCapitals everywhere pattern =>
                let (s, signs) := expandBeside fuel pattern s
                let p := Pattern.ofSigns s.patternRules (signs.widened w)
                changed (fun t => narrowed w (recased false toCapitals everywhere p
                  (widened w t))) s
            | .slice start count =>
                let (s, first) := calculated fuel start s
                let (s, size) : State × Except CalculationFault (Option Int) := match count with
                  | none => (s, .ok none)
                  | some count =>
                      let (s, n) := calculated fuel count s
                      (s, n.map some)
                match first, size with
                | .ok first, .ok size =>
                    let taken : Option Source := match source with
                      | .one value => (sliced w first size (value.getD [])).map fun t =>
                          .one (some t)
                      | .all isOne values =>
                          let all := if isArguments name then s.name :: values else values
                          (ranged first size all).map (.all isOne)
                    match taken with
                    | some source => (s, s.shownAll splits isQuoted source)
                    | none => ((s.report "substring expression < 0".toList).abandon, [])
                | _, _ => (s.abandon, [])
            | _ => changed id s

/-- What a text beside a parameter comes to that is not cut. -/
def expandBeside (fuel : Nat) (t : Text) (s : State) : State × Signs :=
  match fuel with
  | 0 => (s.exhausted, [])
  | fuel + 1 =>
      match Word.ofText? s.dialect false t with
      | some w =>
          let (s, items) := expand fuel false false (s.homed w) s
          (s, joined items)
      | none => (s.abandon, [])

/-- What a word comes to where it is not cut. -/
def expandWhole (fuel : Nat) (w : Word) (s : State) : State × Signs :=
  match fuel with
  | 0 => (s.exhausted, [])
  | fuel + 1 =>
      let (s, items) := expand fuel false false (s.homed w) s
      (s, joined items)

/-- The fields and the names of files that words come to. -/
def expandAll (fuel : Nat) (ws : List Word) (s : State) : State × List Text :=
  match fuel with
  | 0 => (s.exhausted, [])
  | fuel + 1 =>
      let mayAssign := ws.head?.any (takesAssignments s.dialect)
      ws.foldl (fun (s, texts) w =>
        if s.isStopped then (s, texts)
        else if mayAssign && (assignment? s.dialect w).isSome then
          let before := w.takeWhile (· ≠ .literal false ['='])
          let (s, items) := expand fuel false false
            (before ++ (w.drop before.length).take 1 ++
              s.homedAll (w.length + 1) (w.drop (before.length + 1))) s
          (s, texts ++ [Signs.text (joined items)])
        else
          (if s.dialect = .bash && s.isOn "braceexpand" then w.unbraced s.dialect else [w]).foldl
            (fun (s, texts) w =>
              if s.isStopped then (s, texts)
              else
                let (s, items) := expand fuel true false (s.homed w) s
                match (fields items).mapM s.namesOf? with
                | some found => (s, texts ++ found.flatten)
                | none => ((s.report ("no match: ".toList ++ Signs.text (joined items))).abandon,
                    texts)) (s, texts)) (s, [])

/-- The value of an expression in which parameters count. -/
def calculated (fuel : Nat) (expression : Text) (s : State) :
    State × Except CalculationFault Int :=
  match fuel with
  | 0 => (s.exhausted, .error .senseless)
  | fuel + 1 =>
      match Word.ofExpression? s.dialect expression with
      | none => (s, .error .senseless)
      | some w =>
          let (s, items) := expand fuel false false w s
          let text := Signs.text (joined items)
          if s.isStopped then (s, .ok 0)
          else
            match s.evaluate State.evaluateFuel text with
            | .ok (n, s) => (s, .ok n)
            | .error fault => (s, .error fault)

/-- The output of commands inside a word. -/
def substitute (fuel : Nat) (script : Text) (s : State) : State × Text :=
  match fuel with
  | 0 => (s.exhausted, [])
  | fuel + 1 =>
      let showsFile := s.dialect = .bash && (script.dropWhile isBlankSign).head? = some '<'
      let script := if showsFile then "cat ".toList ++ script else script
      let keeps := s.dialect = .dash || s.isOn "inherit_errexit" || s.isOn "posix"
      let (world, n) := s.world.openQueue [] false
      let s := { s with world := world }
      let begun := { s.copy with isTested := false }.setStream 1 n
      let inner := finish fuel (runText fuel false false s.line script
        (if keeps then begun else begun.turn "errexit" false))
      let after := (s.adopt inner).drain n
      let shown := if s.dialect = .bash || after.isStopped then after else after.withStatus s.status
      ({ shown with innerStatus := some inner.status },
        withoutLineEnds (after.world.ahead n))

/-- What the target of a redirection comes to: one text. -/
def redirectTarget (fuel : Nat) (r : Redirect) (s : State) : State × Option Text :=
  match fuel with
  | 0 => (s.exhausted, none)
  | fuel + 1 =>
      let isPlain := s.dialect = .dash || r.direction = .document || r.direction = .line
      if isPlain then
        let (s, items) := expand fuel false false
          (if r.direction = .document then r.target else s.homed r.target) s
        (s, some (Signs.text (joined items)))
      else
        let (s, texts) := expandAll fuel [r.target] s
        match texts with
        | [t] => (s, some t)
        | _ => if s.isStopped then (s, none)
            else (s.report (r.target.listed ++ ": ambiguous redirect".toList), none)

/-- Follows redirections; it fails with the first one that cannot be followed. -/
def redirectAll (fuel : Nat) (redirects : List Redirect) (s : State) : State × Bool :=
  match fuel with
  | 0 => (s.exhausted, false)
  | fuel + 1 =>
      redirects.foldl (fun (s, goes) r =>
        if !goes then (s, false)
        else
          match redirectTarget fuel r s with
          | (s, none) => (s, false)
          | (s, some target) =>
              if s.isStopped then (s, false)
              else
                match s.redirectNamed r.stream r.direction target with
                | .ok s => (s, !s.isStopped)
                | .error message => (s.report message, false)) (s, true)

/-- Gives variables the values of words. -/
def assignAll (fuel : Nat) (assignments : List Assignment) (s : State) : State :=
  match fuel with
  | 0 => s.exhausted
  | fuel + 1 =>
      assignments.foldl (fun s a =>
        if s.isStopped then s
        else
          match a.elements? with
          | some list =>
              let (s, entries) := elementsOf fuel a.name list s
              if s.isStopped then s
              else if s.isFixed a.name then
                (s.report (a.name ++ ": readonly variable".toList)).abandon
              else
                let isKeyed := s.isKeyed a.name
                let values := if a.adds then (s.values? a.name).getD [] else []
                let entries := if isKeyed then State.paired entries else entries
                (s.putValues a.name isKeyed values).assignElements a.name entries
          | none =>
              let (s, items) := expand fuel false false (s.homedAll (a.value.length + 1) a.value) s
              let value := Signs.text (joined items)
              let isNumber := (s.variableNamed? a.name).any (·.isNumber)
              let joinedTo (before : Text) : Text :=
                if a.adds && isNumber then before ++ '+' :: value else before ++ value
              match a.subscript with
              | some key =>
                  match keyOfWord fuel a.name key s with
                  | (s, some key) =>
                      let before := if a.adds then
                        ((s.values? a.name).bind (Table.get? · key)).getD [] else []
                      if s.isStopped then s else s.assignElement a.name key (joinedTo before)
                  | (s, none) => if s.isStopped then s else s.abandon
              | none =>
                  let before := if a.adds then (s.value? a.name).getD [] else []
                  if s.isStopped then s
                  else (s.assignSafely a.name (joinedTo before)).trace
                    [a.name ++ '=' :: joinedTo before]) s

/-- The text under which a value stands, from a word. -/
def keyOfWord (fuel : Nat) (name : Text) (key : Word) (s : State) : State × Option Text :=
  match fuel with
  | 0 => (s.exhausted, none)
  | fuel + 1 =>
      let (s, items) := expand fuel false false key s
      let text := Signs.text (joined items)
      if s.isStopped then (s, none)
      else if s.isKeyed name then (s, some text)
      else keyOf fuel name text s

/-- The elements of a list, with the texts under which they say that they stand, and whether they
are added to what is there. -/
def elementsOf (fuel : Nat) (name list : Text) (s : State) :
    State × List (Option Text × Bool × Text) :=
  match fuel with
  | 0 => (s.exhausted, [])
  | fuel + 1 =>
      let words := (tokens s.dialect list).filterMap fun
        | .word w _ => some w
        | _ => none
      words.foldl (fun (s, entries) w =>
        if s.isStopped then (s, entries)
        else
          match assignedWord? .bash w with
          | some ⟨[], some key, adds, value⟩ =>
              match keyOfWord fuel name key s with
              | (s, some key) =>
                  let (s, items) := expand fuel false false (s.homed value) s
                  (s, entries ++ [(some key, adds, Signs.text (joined items))])
              | (s, none) => (if s.isStopped then s else s.abandon, entries)
          | _ =>
              let (s, texts) := expandAll fuel [w] s
              (s, entries ++ texts.map fun t => (none, false, t))) (s, [])

/-- Carries out a text line by line, from a line of the given number on. One that cannot be read
ends the shell, unless it survives that; and where it passes over a line, it goes on with the next
one. -/
def runText (fuel : Nat) (survives passes : Bool) (line : Nat) (script : Text)
    (s : State) : State :=
  match fuel with
  | 0 => s.exhausted
  | fuel + 1 =>
      let isLast := s.isLast
      let reading (s : State) : Reading × Table Text :=
        (⟨s.dialect, s.dialect = .bash && s.isOn "extglob"⟩,
          if s.expandsNicknames then s.nicknames else [])
      let read (s : State) (t : Text) : List (Token × Text) :=
        let (r, nicknames) := reading s
        let ts := tokensWithRests r (line + (lineEnds script - lineEnds t)) t
        if nicknames.isEmpty then ts else withNicknames r nicknames (4 * t.length + 1) [] true ts
      let skipped (ts : List (Token × Text)) : List (Token × Text) :=
        ts.dropWhile fun (token, _) => token = .operator ['\n']
      (repeated (fun ((s, ts) : State × List (Token × Text)) =>
        match skipped ts with
        | [] => ((s, []), false)
        | ts =>
            let (next, goes) := runLine fuel survives isLast ts s
            let before := reading s
            let after := reading next.1
            let isSame := before.1 = after.1 && before.2 = after.2
            let rest := if isSame then next.2
              else read next.1 ((ts.drop (ts.length - next.2.length - 1)).head?.elim [] Prod.snd)
            if passes && next.1.stopped = some .passed then
              (({ next.1 with stopped := none }, rest), true)
            else ((next.1, rest), goes && !next.1.isStopped)) (script.length + 1)
        ({ s with isLast := false }, read s script)).1.1

/-- Carries out the commands of the first line of tokens; the others are left. -/
def runLine (fuel : Nat) (survives isLast : Bool) (ts : List (Token × Text)) (s : State) :
    (State × List (Token × Text)) × Bool :=
  match fuel with
  | 0 => ((s.exhausted, []), false)
  | fuel + 1 =>
      match Command.readLine? s.dialect (ts.map Prod.fst) with
      | none =>
          let isSpoilt : Token × Text → Bool
            | (.word w _, _) => !w.hasElements
            | _ => false
          let s := s.report "syntax error".toList
          match ts.dropWhile (!isSpoilt ·) with
          | [] => ((if survives then settle fuel (s.withStatus 2) else s.exit 2, []), false)
          | _ :: others =>
              ((s.refuseElements survives, others.dropWhile fun (t, _) => t ≠ .operator ['\n']),
                true)
      | some (c, rest) =>
          let words := (ts.take (ts.length - rest.length)).filterMap fun
            | (.word w _, _) => some w
            | _ => none
          let others := ts.drop (ts.length - rest.length)
          let fits := (words.flatMap Command.scriptsIn).all fun script =>
            Command.canRead s.dialect 8 (tokens s.dialect script)
          let s :=
            if !(Command.allWords s.dialect 8 words).all Word.hasElements then
              s.refuseElements survives
            else if !fits then (s.report "syntax error".toList).refuseText
            else run fuel c { s with isLast := isLast && (Command.skipLines rest).isEmpty }
          ((s, others), true)

/-- Carries out the lines of the input, of which one after the other is read. -/
def runInput (fuel : Nat) (s : State) : State :=
  match fuel with
  | 0 => s.exhausted
  | fuel + 1 =>
      if s.dialect = .dash then
        let t := s.ahead 0
        runText fuel false true 1 t (s.advance 0 t.length)
      else
        let total := lineEnds (s.ahead 0)
        (untired (fun (s : State) =>
          let t := s.ahead 0
          let r : Reading := ⟨s.dialect, s.isOn "extglob"⟩
          let ts := tokensWithRests r (1 + (total - lineEnds t)) t
          let ts := if s.expandsNicknames then
            withNicknames r s.nicknames (4 * t.length + 1) [] true ts else ts
          match ts with
          | [] => (s.advance 0 t.length, false)
          | (.operator ['\n'], rest) :: _ => (s.advance 0 (t.length - rest.length), true)
          | ts =>
              let left := ((Command.readLine? s.dialect (ts.map Prod.fst)).map Prod.snd).getD []
              let rest := ((ts.drop (ts.length - left.length - 1)).head?.elim [] Prod.snd)
              let s := s.advance 0 (t.length - rest.length)
              let ((s, _), _) := runLine fuel false false ts s
              if s.stopped = some .passed then ({ s with stopped := none }, true)
              else (s, !s.isStopped)) State.rested tireLimit s)

/-- What a shell does at its end. -/
def finish (fuel : Nat) (s : State) : State :=
  match fuel with
  | 0 => s.exhausted
  | fuel + 1 =>
      let ended := match s.stopped, Table.get? s.traps (trapName 0) with
        | some (.killed _ _), _ => s
        | some (.frozen _ _), _ => s
        | _, some (c :: action) =>
            let after := runText fuel false false 1 (c :: action)
              { s with
                traps := s.traps.filter (·.1 != trapName 0)
                stopped := none
                leavingStatus := some s.status
                isTested := false
                calls := s.calls + 1
                loops := 0 }
            match after.stopped with
            | some .exited => after
            | some (.killed _ _) => after
            | some (.frozen _ _) => after
            | _ => after.withStatus s.status
        | _, _ => s
      if ended.readers.isEmpty || ended.isFrozen then ended else serveReaders fuel ended

/-- Does what a trap says; the status is as before. -/
def runTrap (fuel : Nat) (action : Text) (s : State) : State :=
  match fuel with
  | 0 => s.exhausted
  | fuel + 1 =>
      let after := runText fuel false false s.line action
        ({ s with isLast := false }.turn "trapped" true)
      let after := { after with
        switches := if s.isOn "trapped" then after.switches
          else after.switches.filter (· != "trapped") }
      if after.isStopped then after
      else { after with
        status := s.status
        pipeStatuses := s.pipeStatuses
        lastWord := s.lastWord
        isLast := s.isLast
        line := s.line }

/-- Does what traps say about signals that have come. -/
def attend (fuel : Nat) (s : State) : State :=
  match fuel with
  | 0 => s.exhausted
  | fuel + 1 =>
      s.caught.foldl (fun s action =>
        if s.isStopped then s
        else
          let leaving := if s.dialect = .dash then some s.status else s.leavingStatus
          let after := runTrap fuel action { s with isTested := false, leavingStatus := leaving }
          if after.isStopped then after
          else { after with isTested := s.isTested, leavingStatus := s.leavingStatus })
        { s with caught := [] }

/-- A command is about to be carried out: a trap may say what is done before. -/
def announce (fuel : Nat) (c : Command) (line : Nat) (s : State) : State :=
  match fuel with
  | 0 => s.exhausted
  | fuel + 1 =>
      let s := if line = 0 then s else { s with line := line }
      if s.dialect = .dash || s.isOn "trapped" then s
      else
        let s := { s with command := c }
        match Table.get? s.traps "DEBUG".toList with
        | some (sign :: action) =>
            if 0 < s.calls && !s.isOn "functrace" then s
            else
              let after := runTrap fuel (sign :: action) { s with isTested := true }
              if after.isStopped then after else s.testedLike after
        | _ => s

/-- What a shell does after a command: it attends to signals, and a failure that is no condition may
end it. -/
def settle (fuel : Nat) (s : State) : State :=
  match fuel with
  | 0 => s.exhausted
  | fuel + 1 =>
      let s := if s.caught.isEmpty || s.isStopped then s else attend fuel s
      if s.status = 0 || s.isTested || s.isStopped then s
      else
        let s := match Table.get? s.traps "ERR".toList with
          | some action =>
              if (s.calls = 0 || s.isOn "errtrace") && !s.isOn "trapped" then
                let after := runTrap fuel action { s with isTested := true }
                if after.isStopped then after else s.testedLike after
              else s
          | none => s
        if s.isStopped || !s.stopsOnFailure then s
        else
          match s.dialect, s.leavingStatus with
          | .dash, some n => s.exit n
          | _, _ => s.exit s.status

/-- Runs a program with arguments as the process that a state is, under the name by which it has
been called. -/
def runProgram (fuel : Nat) (name called : Text) (arguments : List Text) (s : State) : State :=
  match fuel with
  | 0 => s.exhausted
  | fuel + 1 =>
      match String.ofList name with
      | "sh" => runShell fuel .dash called arguments s
      | "dash" => runShell fuel .dash called arguments s
      | "bash" => runShell fuel .bash called arguments s
      | "rbash" => runShell fuel .bash called ("-r".toList :: arguments) s
      | _ =>
          let s := { s with dialect := .bash, switches := [] }
          let runners : Runners :=
            { become := fun words s => become fuel words s
              call := fun words s => s.adopt (become fuel words s.child) }
          match agent? name, tool? name with
          | some agent, _ => agent runners arguments s
          | none, some tool => tool arguments s
          | none, none => s.withStatus 0

/-- Another program takes the place of a program. -/
def become (fuel : Nat) (words : List Text) (s : State) : State :=
  match fuel, words with
  | 0, _ => s.exhausted
  | _ + 1, [] => s.withStatus 0
  | fuel + 1, name :: arguments =>
      match s.findProgram (s.value? "PATH".toList) name with
      | .ok found => runFound fuel found name arguments { s with dialect := .dash }
      | .error fault =>
          (s.mutter (name ++ ": ".toList ++ fault.message ++
            ['\n'])).withStatus fault.statusElsewhere

/-- Runs what has been found: a text is run by the program that its first line names, or by a
shell. -/
def runFound (fuel : Nat) (found : Executable) (called : Text) (arguments : List Text) (s : State) :
    State :=
  match fuel, found with
  | 0, _ => s.exhausted
  | fuel + 1, .program name => runProgram fuel name called arguments s
  | fuel + 1, .script path text =>
      match interpreter? text with
      | some (name, words) =>
          match s.programAt name with
          | .ok found => runFound fuel found name (words ++ path :: arguments) s
          | .error fault => s.withStatus fault.statusElsewhere
      | none => runShell fuel s.dialect (if s.dialect = .bash then "bash".toList else "sh".toList)
          (path :: arguments) s

/-- Starts a shell. -/
def runShell (fuel : Nat) (dialect : Dialect) (called : Text) (arguments : List Text) (s : State) :
    State :=
  match fuel with
  | 0 => s.exhausted
  | fuel + 1 =>
      match Start.ofArguments dialect arguments with
      | .ends status text => if text.isEmpty then s.withStatus status else s.write text
      | .runs start =>
          let begun (name : Text) (arguments : List Text) (s : State) : State :=
            let inner := s.inner dialect start name arguments
            if dialect = .dash then inner
            else
              let defined := inner.handedFunctions.foldl (fun s (_, text) =>
                runText fuel true true 1 text s) inner
              match inner.value? "BASH_ENV".toList with
              | some (c :: path) =>
                  let (expanded, signs) := expandBeside fuel (c :: path) defined
                  match expanded.textAt (Signs.text signs) with
                  | .ok (s, text) => runText fuel true true 1 text s
                  | .error _ => expanded
              | _ => defined.withStatus 0
          let ofText (text name : Text) (arguments : List Text) (s : State) : State :=
            let inner := begun name arguments s
            if inner.isStopped then finish fuel inner
            else finish fuel (runText fuel false true 1 text
              { inner with isLast := start.takesText && dialect = .bash })
          let ofInput (name : Text) (arguments : List Text) (s : State) : State :=
            let inner := begun name arguments s
            if inner.isStopped then finish fuel inner else finish fuel (runInput fuel inner)
          match start.takesText, start.words with
          | true, [] =>
              (s.mutter "-c: option requires an argument\n".toList).withStatus
                (if dialect = .bash && start.isStrict then 1 else 2)
          | true, text :: rest => ofText text (rest.headD called) rest.tail s
          | false, [] => ofInput called [] s
          | false, path :: rest =>
              if start.readsInput then ofInput called (path :: rest) s
              else
                let s := { s with dialect := dialect, name := called }
                let missing := if s.has path then 126 else 127
                let isProgram := s.contentAt? path matches some (.program _)
                match (s.textAt path).toOption.or
                    (if s.dialect = .bash then s.sourceText? path else none) with
                | some (s, text) =>
                    let isBinary := isProgram || (text.takeWhile (· != '\n')).contains '\x00'
                    if isBinary && dialect = .bash then
                      (s.mutter (path ++ ": cannot execute binary file\n".toList)).withStatus 126
                    else if isProgram then s.withStatus 2
                    else
                      let inner := { begun path rest s with sources := [path] }
                      if inner.isStopped then finish fuel inner
                      else finish fuel (runText fuel false true 1 text inner)
                | none =>
                    let s := s.mutter (path ++ ": No such file or directory\n".toList)
                    s.withStatus (if s.dialect = .bash then missing
                      else if s.hasDirectory path then 0 else 2)

/-- Calls a function. -/
def call (fuel : Nat) (name : Text) (body : Command) (arguments : List Text) (s : State) : State :=
  match fuel with
  | 0 => s.exhausted
  | fuel + 1 =>
      let isTooDeep := s.dialect = .dash && callLimit ≤ s.calls
      let after := if isTooDeep then s.exit 2 else run fuel body { s with
        arguments := arguments
        hidden := [] :: s.hidden
        callers := ⟨name, s.line⟩ :: s.callers
        loops := 0
        calls := s.calls + 1 }
      let trap? := (Table.get? after.traps "RETURN".toList).filter fun action => !action.isEmpty &&
        !s.isOn "trapped" &&
        (s.isOn "functrace" || Table.get? s.traps "RETURN".toList ≠ some action)
      let isOver := after.stopped.all (· == .returned)
      let after := match trap?, isOver with
        | some action, true =>
            let trapped := runTrap fuel action { after with stopped := none }
            if trapped.isStopped then trapped else { trapped with stopped := after.stopped }
        | _, _ => after
      let after := after.unhide (after.hidden.headD [])
      { after with
        arguments := s.arguments
        hidden := s.hidden
        callers := s.callers
        loops := s.loops
        calls := s.calls
        stopped := if after.stopped = some .returned then none else after.stopped }

/-- Runs a program for a shell. -/
def launch (fuel : Nat) (name : Text) (arguments : List Text) (s : State) : State :=
  match fuel with
  | 0 => s.exhausted
  | fuel + 1 =>
      match s.findCommand name with
      | .error fault =>
          let handler := "command_not_found_handle".toList
          match Table.get? s.functions handler with
          | some body =>
              if s.dialect = .bash && !name.contains '/' then
                s.adopt (finish fuel (call fuel handler body (name :: arguments) s.copy))
              else s.withStatus (fault.status s.dialect name)
          | none =>
              let what := if s.dialect = .bash then
                  (if name.contains '/' then fault.message else "command not found".toList)
                else if fault = .notFound then "not found".toList else fault.message
              (s.report (name ++ ": ".toList ++ what)).withStatus (fault.status s.dialect name)
      | .ok found =>
          let isSame := s.isLast && s.traps.all (·.2.isEmpty)
          let place := if name.contains '/' then some name else s.placeOf? name
          s.adopt (runFound fuel found name arguments
            ((if isSame then s.replacement else s.child).executing place))

/-- Carries out a text that has been read in. -/
def source (fuel : Nat) (file : Text) (arguments : List Text) (s : State) : State :=
  match fuel with
  | 0 => s.exhausted
  | fuel + 1 =>
      match s.sourceText? file with
      | none =>
          (s.report (file ++ ": No such file or directory".toList)).refuseStrictly
      | some (s, text) =>
          let given := s.dialect = .bash && !arguments.isEmpty
          let after := runText fuel (s.dialect = .bash) false 1 text
            { (s.withStatus 0) with
              arguments := if given then arguments else s.arguments
              isTested := s.isTested && s.dialect = .bash
              sources := file :: s.sources
              calls := s.calls + 1 }
          let trap? := (Table.get? after.traps "RETURN".toList).filter fun action =>
            !action.isEmpty && !s.isOn "trapped"
          let isOver := after.stopped.all (· == .returned)
          let after := match trap?, isOver with
            | some action, true =>
                let trapped := runTrap fuel action { after with stopped := none }
                if trapped.isStopped then trapped else { trapped with stopped := after.stopped }
            | _, _ => after
          s.testedLike { after with
            arguments := if given then s.arguments else after.arguments
            calls := s.calls
            sources := s.sources
            line := s.line
            stopped := if after.stopped = some .returned then none else after.stopped }

/-- Another program takes the place of the shell. -/
def replace (fuel : Nat) (words : List Text) (s : State) : State :=
  match fuel with
  | 0 => s.exhausted
  | fuel + 1 =>
      let (bare, words) := if s.dialect = .bash then afterPlace false words else (false, words)
      match words with
      | [] => s.withStatus 0
      | program :: arguments =>
          if s.isOn "restricted" then s.fail 1 "exec".toList "restricted".toList
          else
            match s.findCommand program with
            | .error fault =>
                let isPlace := s.dialect = .bash && s.hasDirectory program
                let s := s.report ("exec: ".toList ++ program ++ ": not found".toList)
                let status := if isPlace then 126 else fault.status s.dialect program
                if s.isOn "execfail" then s.withStatus status else s.exit status
            | .ok found =>
                let place := if program.contains '/' then some program else s.placeOf? program
                let ended := { s with traps := s.traps.filter (·.2.isEmpty) }
                let inner := ended.replacement.executing place
                let inner := if bare then { inner with vars := [] } else inner
                let after := ended.adopt (runFound fuel found program arguments inner)
                if after.isStopped then after else after.exit after.status

/-- Does what a command of a shell does that runs others. -/
def runOther (fuel : Nat) (name : Text) (words : List Text) (s : State) : State :=
  match fuel with
  | 0 => s.exhausted
  | fuel + 1 =>
      let operands := if words.head? = some ['-', '-'] then words.tail else words
      match String.ofList name, operands with
      | "eval", words =>
          let text := Text.joinWith [' '] words
          if (tokens s.dialect text).isEmpty then s.withStatus 0
          else runText fuel (s.dialect = .bash) false s.line text s
      | "exec", words => replace fuel words s
      | "command", ('-' :: 'p' :: rest) :: words =>
          if s.isOn "restricted" then s.fail 1 "command".toList "-p: restricted".toList
          else
            let inner := s.putValue "PATH".toList standardSearch
            let words := if rest.isEmpty then words else ('-' :: rest) :: words
            let after := runOther fuel name words inner
            match Table.get? s.vars "PATH".toList with
            | some v => { after with vars := Table.put after.vars "PATH".toList v }
            | none => after.forget "PATH".toList
      | "command", ('-' :: 'v' :: _) :: names =>
          State.describeNames true (s.dialect = .bash) (s.namesAtOnce names) s
      | "command", ('-' :: 'V' :: _) :: names =>
          State.describeNames false (s.dialect = .bash) (s.namesAtOnce names) s
      | "command", [] => s.withStatus 0
      | "command", name :: arguments =>
          let after := runNamed fuel name arguments { s with functions := [] }
          let after := { after with functions := if after.functions.isEmpty then s.functions
            else s.functions ++ after.functions }
          let mayExit := name = "exit".toList || (s.isRunner name &&
            (name ≠ ['.'] || (s.sourceText? (arguments.headD [])).isSome))
          let isMistake := s.dialect = .dash && after.stopped = some .exited && !mayExit
          if isMistake then { after with stopped := none } else after
      | "type", _ => State.describeTypes words s
      | "hash", _ => State.remember words s
      | "enable", _ => State.enable words s
      | "help", _ => State.help words s
      | "builtin", [] => s.withStatus 0
      | "builtin", name :: arguments =>
          if s.knows name then
            let after := runNamed fuel name arguments { s with functions := [] }
            { after with functions := if after.functions.isEmpty then s.functions
              else s.functions ++ after.functions }
          else s.fail 1 "builtin".toList (name ++ ": not a shell builtin".toList)
      | _, [] => s.withStatus (if s.dialect = .dash then 0 else 2)
      | _, file :: arguments =>
          if s.isOn "restricted" && file.contains '/' then
            s.fail 1 name (file ++ ": restricted".toList)
          else source fuel file arguments s

/-- Runs a command that is given by its name. -/
def runNamed (fuel : Nat) (name : Text) (arguments : List Text) (s : State) : State :=
  match fuel with
  | 0 => s.exhausted
  | fuel + 1 =>
      let isLast := s.isLast
      let s := { s with isLast := false }
      let special := s.dialect = .dash && isLasting name
      let namesJob := s.dialect = .bash && name.head? = some '%'
      if namesJob then s.refuse
      else if s.isOn "restricted" && name.contains '/' then
        (s.report (name ++ ": restricted".toList)).withStatus 1
      else
        match if special then none else Table.get? s.functions name with
        | some body => call fuel name body arguments s
        | none =>
            match s.builtinOf? name with
            | some tool =>
                if isMisused s.dialect name arguments then s.misused name else tool arguments s
            | none =>
                if s.isRunner name then
                  if isMisused s.dialect name arguments then s.misused name
                  else runOther fuel name arguments s
                else launch fuel name arguments { s with isLast := isLast }

/-- Runs a simple command without words: it assigns and redirects, in an order that depends on the
shell. -/
def runEmpty (fuel : Nat) (assignments : List Assignment) (redirects : List Redirect) (s : State) :
    State :=
  match fuel with
  | 0 => s.exhausted
  | fuel + 1 =>
      let isEarly := s.dialect = .bash
      let before := s
      let s := if isEarly then assignAll fuel assignments s else s
      if s.isStopped then s
      else
        let (during, goes) := redirectAll fuel redirects s
        let after := before.withStreamsOf (redirects.any Redirect.isNamed) during
        let after := if after.readers.isEmpty then after else serveReaders fuel after
        if after.isStopped then after
        else if !goes then after.refuse
        else
          let after := if isEarly then after else assignAll fuel assignments after
          if after.isStopped then after
          else { (after.withStatus (after.innerStatus.getD 0)) with lastWord := [] }

/-- Runs a command that declares variables, where words give them elements. -/
def runDeclaring (fuel : Nat) (later : List Assignment) (name : Text) (arguments : List Text)
    (s : State) : State :=
  match fuel with
  | 0 => s.exhausted
  | fuel + 1 =>
      let fixes := name = "readonly".toList || hasOption 'r' arguments
      let after := if name = "readonly".toList then
          later.foldl (fun s a => if (s.values? a.name).isNone && hasOption 'A' arguments then
            s.putValues a.name true [] else s) (s.withStatus 0)
        else runNamed fuel name (withoutOption 'r' arguments) s
      if after.isStopped || after.status ≠ 0 then after
      else
        let after := assignAll fuel later after
        if after.isStopped || !fixes then after
        else if name = "readonly".toList then runNamed fuel name arguments after
        else later.foldl (fun s a => s.modify a.name fun v => { v with isFixed := true }) after

/-- Runs a simple command. -/
def runSimple (fuel : Nat) (simple : Simple) (s : State) : State :=
  match fuel with
  | 0 => s.exhausted
  | fuel + 1 =>
      let outer := s
      let (assignments, words) := splitAssignments s.dialect simple.words
      let mayAssign := words.head?.any (takesAssignments s.dialect)
      let held (w : Word) : Option Assignment :=
        (assignment? s.dialect w).filter fun a => a.elements?.isSome || a.subscript.isSome
      let later := if mayAssign then words.filterMap held else []
      let words := if later.isEmpty then words else words.map fun w =>
        match held w with
        | some a => .ofLiteral a.name
        | none => w
      let (s, texts) := expandAll fuel words { s with innerStatus := none, readers := [] }
      let s := if s.isPiped then { s with isPiped := false, level := s.level + 1 } else s
      if s.isStopped then { s with streams := outer.streams, readers := outer.readers }
      else
        match texts with
        | [] =>
            let after := runEmpty fuel assignments simple.redirects s
            { after with readers := outer.readers ++ after.readers }
        | name :: arguments =>
            let s := if s.isOn "xtrace" then s.trace texts else s
            let (during, goes) := redirectAll fuel simple.redirects s
            let restore (after : State) : State :=
              let after := outer.withStreamsOf (simple.redirects.any Redirect.isNamed) after
              let after := if after.readers.isEmpty then after else serveReaders fuel after
              { after with readers := outer.readers ++ after.readers }
            let special := s.dialect = .dash && isLasting name
            if during.isStopped then restore during
            else if !goes then
              if special then (restore during).exit 2 else (restore during).refuse
            else
              let given := assignments.filter fun a =>
                s.dialect = .dash || s.stopsOnFailure || !s.isFixed a.name
              let assigned := assignAll fuel given during
              if assigned.isStopped then restore assigned
              else
                let names := given.map (·.name)
                let marked := names.foldl (fun s name => s.exportName name) assigned
                let marked := marked.refresh
                let after := if later.isEmpty then runNamed fuel name arguments marked
                  else runDeclaring fuel later name arguments marked
                let after := { after with lastWord := texts.getLast?.getD [] }
                let isKept := name = "exec".toList && (afterPlace false arguments).2.isEmpty
                let after := if isKept then
                    { after with readers := outer.readers ++ after.readers }
                  else restore after
                if special then
                  names.foldl (fun s name' =>
                    if (outer.variableNamed? name').any (·.isExported) ||
                        name = "export".toList then s
                    else s.modify name' fun v => { v with isExported := false }) after
                else outer.giveBack given after

/-- The verdict on a condition between double brackets. -/
def judge (fuel : Nat) (j : Judgement) (s : State) : State × Verdict :=
  match fuel, j with
  | 0, _ => (s.exhausted, .senseless)
  | fuel + 1, .negated inner =>
      let (s, v) := judge fuel inner s
      (s, v.negate)
  | fuel + 1, .both left right =>
      let (s, v) := judge fuel left s
      if v = .holds && !s.isStopped then judge fuel right s else (s, v)
  | fuel + 1, .either left right =>
      let (s, v) := judge fuel left s
      if v = .fails && !s.isStopped then judge fuel right s else (s, v)
  | fuel + 1, .words [a] =>
      let (s, a) := expandWhole fuel a s
      (s, .ofBool (!a.isEmpty))
  | fuel + 1, .words [sign, a] =>
      let (s, sign) := expandWhole fuel sign s
      let (s, a) := expandWhole fuel a s
      (s, s.testOne (Signs.text sign) (Signs.text a))
  | fuel + 1, .words [a, sign, b] =>
      let (s, a) := expandWhole fuel a s
      let (s, sign) := expandWhole fuel sign s
      let (s, b) := expandWhole fuel b s
      let a := Signs.text a
      let sign := Signs.text sign
      if s.isStopped then (s, .senseless)
      else if sign = "==".toList || sign = ['='] then (s, .ofBool (s.fits b a))
      else if sign = "!=".toList then (s, .ofBool (!s.fits b a))
      else if sign = "=~".toList then s.matched a b
      else if isNumeric sign then
        match calculated fuel a s with
        | (s, .error _) => (s, .fails)
        | (s, .ok m) =>
            match calculated fuel (Signs.text b) s with
            | (s, .error _) => (s, .fails)
            | (s, .ok n) => (s, s.testTwo (Text.ofInt m) sign (Text.ofInt n))
      else (s, s.testTwo a sign (Signs.text b))
  | _ + 1, .words _ => (s, .senseless)

/-- Carries out a part of a pipe as a process of its own. -/
def runPart (fuel : Nat) (c : Command) (s : State) : State :=
  match fuel with
  | 0 => s.exhausted
  | fuel + 1 =>
      let copy := s.copy
      match c with
      | .simple _ => finish fuel (run fuel c { copy with
          isPiped := true
          depth := s.depth
          level := s.level })
      | c => finish fuel (run fuel c copy)

/-- Carries out a pipe, and keeps the statuses of its parts. -/
def runPipe (fuel : Nat) (left right : Command) (s : State) : State :=
  match fuel with
  | 0 => s.exhausted
  | fuel + 1 =>
      let streams := s.streams
      let (world, n) := s.world.openQueue [] false
      let s := { s with world := world }
      let before := runPart fuel left { s.setStream 1 n with isTested := s.isTested }
      let isEndless := before.stopped = some (.frozen none none)
      let before := if isEndless then { before with stopped := none, status := 141 } else before
      let between := (s.adopt before).drain n
      if between.isStopped then between
      else
        let (world, r) := between.world.reopened n
        let begun := ({ between with world := world, status := s.status }).setStream 0 r
        let isInPlace := s.dialect = .bash && s.isOn "lastpipe"
        let (after, statuses) := match right with
          | .pipe left right =>
              let after := runPipe fuel left right begun
              (after, after.pipeStatuses)
          | right =>
              if isInPlace then
                let after := run fuel right begun
                (after, [after.status])
              else
                let inner := runPart fuel right begun
                let after := between.adopt inner
                (after, [after.status])
        let left := (after.world.ahead r).length
        let isBroken := isEndless && 0 < left || 65536 < left
        let status := if isBroken then 141 else between.status
        let after := { after with streams := streams, pipeStatuses := status :: statuses }
        if after.isStopped then after
        else if isEndless && !isBroken then after.endless
        else if s.isOn "pipefail" then
          after.withStatus (((status :: statuses).reverse.find? (· ≠ 0)).getD 0)
        else after

/-- Carries out a command beside the shell. -/
def runBeside (fuel : Nat) (c : Command) (s : State) : State :=
  match fuel with
  | 0 => s.exhausted
  | fuel + 1 =>
      let number := s.world.lastProcess + 1
      let plain := if s.dialect = .bash then c.withoutNegation else c
      let (world, n) := s.world.addOpening ⟨.nothing, 0, true, false, false⟩
      let s := { s with world := world }
      let isSimple := plain matches .simple _
      let begun := { (s.copy.setStream 0 n) with
        waiting := []
        depth := if isSimple then s.depth else s.depth + 1 }
      let resume (world : World) : World × Outcome :=
        let after := finish fuel (run fuel plain { begun with
          world := { world with clock := s.world.clock, lastProcess := number } })
        let leftOver (after : State) (status : Option Int) : World × Outcome :=
          match after.stopped with
          | some (.frozen wakes queue) =>
              (after.world, .waits status wakes queue (after.world.clock + 1) after.traps)
          | _ => (after.world, .ended (status.getD after.status))
        match after.stopped with
        | some (.frozen _ _) => leftOver after none
        | some (.killed process signal) =>
            if process = number then (after.world, .ended (128 + (signal : Int)))
            else ((after.post process signal).world, .ended after.status)
        | _ =>
            if after.waiting.isEmpty then (after.world, .ended after.status)
            else
              let later := after.passUntil ((world.horizon).getD world.clock) State.passFuel
              if later.waiting.isEmpty then (later.world, .ended after.status)
              else leftOver (later.freeze none none) (some after.status)
      let job : Job := ⟨number, s.self, false, c.listed⟩
      let pending : Pending := ⟨number, none, none, 0, [], begun.traps,
        begun.streams.map Prod.snd, resume⟩
      let after := { s with
        waiting := s.waiting ++ [pending]
        world := { s.world with lastProcess := number } }.resume pending s.world.clock
      { after with jobs := job :: s.jobs, status := 0 }

/-- Starts a command that reads what the shell writes, and writes what it reads. -/
def startPartner (fuel : Nat) (name : Text) (c : Command) (s : State) : State :=
  match fuel with
  | 0 => s.exhausted
  | fuel + 1 =>
      let number := s.world.lastProcess + 1
      let (world, input) := s.world.addQueue []
      let (world, output) := world.addQueue []
      let (world, reader) := world.addOpening ⟨.queue output, 0, true, true, true⟩
      let (world, writer) := world.addOpening ⟨.queue input, 0, false, true, true⟩
      let s := { s with world := world }
      let begun := { s.copy with partners := [], waiting := [] }
      let answer (isClosed : Bool) (t : Text) (world : World) : Text × Option Int × World :=
        let (world, q) := world.addQueue t
        let (world, n) := world.addOpening ⟨.queue q, 0, true, !isClosed, true⟩
        let (world, m) := world.openQueue [] false
        let inner := finish fuel (run fuel c ({ begun with
          world := { world with horizon := some State.never } }.setStream 0 n |>.setStream 1 m))
        let after := { inner.world with
          clock := s.world.clock
          horizon := s.world.horizon
          lastProcess := world.lastProcess }
        let status := match inner.stopped with
          | some (.frozen _ _) => none
          | some (.killed _ signal) => some (128 + (signal : Int))
          | _ => some inner.status
        (after.ahead m, status, after)
      let partner : Partner := ⟨number, input, output, none, 0, answer⟩
      let ends : Table Text := State.numbered (["63".toList, "60".toList])
      let s := { s with
        world := { s.world with lastProcess := number }
        partners := s.partners ++ [partner]
        jobs := ⟨number, s.self, false, c.listed⟩ :: s.jobs }
      let s := (s.setStream 63 reader).setStream 60 writer
      let s := s.putValues name false ends
      ((s.putValue (name ++ "_PID".toList) (Text.ofNat number)).withStatus 0).refresh

/-- Chooses from a list again and again, until a command leaves it or the input ends. -/
def runSelect (fuel : Nat) (name : Text) (words : List Text) (body : Command) (s : State) : State :=
  match fuel with
  | 0 => s.exhausted
  | fuel + 1 =>
      let shown := s.mutter (State.menuText words)
      (untired (fun (s : State) =>
        let s := s.mutter ((s.value? "PS3".toList).getD "#? ".toList)
        match s.answer? with
        | (s, none) => (s.withStatus 1, false)
        | (s, some line) =>
            let s := s.putValue "REPLY".toList line
            if line.all isBlankSign then (s.mutter (State.menuText words), true)
            else
              let chosen := if line.all Char.isDigit && 0 < digitsValue line then
                (words[digitsValue line - 1]?).getD [] else []
              (run fuel body (s.putValue name chosen)).afterRound) State.rested tireLimit shown)

/-- Carries out a command. -/
def run (fuel : Nat) (c : Command) (s : State) : State :=
  match fuel with
  | 0 => s.exhausted
  | fuel + 1 =>
      let isLast := s.isLast
      let isPiped := s.isPiped
      let s := { s with isLast := false, isPiped := false }
      if s.isStopped || s.isOn "noexec" then s
      else
        match c with
        | .nothing => s
        | .simple simple =>
            let s := announce fuel c simple.line s
            if s.isStopped then s
            else settle fuel (runSimple fuel simple
              { s with isLast := isLast, isPiped := isPiped }).alone
        | .sequence first second =>
            let s := run fuel first s
            if s.isStopped then s else run fuel second { s with isLast := isLast }
        | .both left right =>
            let s := s.testedLike (run fuel left { s with isTested := true })
            if s.isStopped || s.status ≠ 0 then s else run fuel right { s with isLast := isLast }
        | .either left right =>
            let s := s.testedLike (run fuel left { s with isTested := true })
            if s.isStopped || s.status = 0 then s else run fuel right { s with isLast := isLast }
        | .negated inner =>
            let s := s.testedLike (run fuel inner { s with isTested := true })
            if s.isStopped then s else s.withStatus (if s.status = 0 then 1 else 0)
        | .choice condition yes no =>
            let s := s.testedLike (run fuel condition { s with isTested := true })
            if s.isStopped then s
            else if s.status = 0 then run fuel yes s
            else run fuel no (if no.isNothing then s.withStatus 0 else s)
        | .subshell inner =>
            let after := s.adopt (finish fuel (run fuel inner s.copy))
            settle fuel { after.alone with command := if s.isOn "trapped" then s.command else c }
        | .pipe left right => settle fuel (runPipe fuel left right s)
        | .background inner => runBeside fuel inner s
        | .partner name inner => startPartner fuel name inner s
        | .loop isUntil condition body step =>
            let (after, _) := untired (fun ((s, last) : State × Int) =>
              let (s, goes) := (s.testedLike (run fuel condition
                { s with isTested := true })).afterRound
              if !goes then ((s, last), false)
              else if (s.status == 0) == isUntil then ((s.withStatus last, last), false)
              else
                let (s, goes) := (run fuel body s).afterRound
                let stepped := if goes then
                    s.testedLike (run fuel step { s with isTested := true })
                  else s
                ((stepped.withStatus s.status, s.status), goes && !stepped.isStopped))
              (fun ((s, last) : State × Int) => let (s, goes) := s.rested; ((s, last), goes))
              tireLimit ({ s with loops := s.loops + 1 }, 0)
            { after with loops := s.loops }
        | .each name words body =>
            let (s, values) := match words with
              | some words => expandAll fuel words s
              | none => (s, s.arguments)
            if s.isStopped then s
            else if values.isEmpty then s.withStatus 0
            else
              let (after, _) := values.foldl (fun (s, goes) value =>
                if goes then
                  let s := announce fuel c 0 s
                  if s.isStopped then (s, false)
                  else (run fuel body (s.assignSafely name value)).afterRound
                else (s, false)) ({ s with loops := s.loops + 1 }, true)
              { after with loops := s.loops }
        | .select name words body =>
            let (s, values) := match words with
              | some words => expandAll fuel words s
              | none => (s, s.arguments)
            if s.isStopped then s
            else if values.isEmpty then s.withStatus 0
            else
              let after := runSelect fuel name values body { s with loops := s.loops + 1 }
              { after with loops := s.loops }
        | .cases subject branches =>
            let s := announce fuel c 0 s
            let (s, signs) := expandWhole fuel subject s
            let text := Signs.text signs
            let (after, _, isFound) := branches.foldl (fun (s, ending, isFound) branch =>
              let (patterns, body, following) := branch
              if s.isStopped || ending = .done then (s, ending, isFound)
              else
                let (s, fits) := patterns.foldl (fun (s, fits) p =>
                  if fits || s.isStopped then (s, fits)
                  else
                    let (s, signs) := expandWhole fuel p s
                    (s, s.fits signs text))
                  (s, decide (ending = BranchEnd.next))
                if s.isStopped || !fits then (s, ending, isFound)
                else
                  let s := if body.isNothing then s.withStatus 0 else s
                  (run fuel body s, following, true))
              (s, BranchEnd.others, false)
            if after.isStopped || isFound then after else after.withStatus 0
        | .define name body => { s with functions := Table.put s.functions name body, status := 0 }
        | .redirected inner redirects =>
            let (during, goes) := redirectAll fuel redirects { s with readers := [] }
            let restore (after : State) : State :=
              let after := s.withStreamsOf (redirects.any Redirect.isNamed) after
              let after := if after.readers.isEmpty then after else serveReaders fuel after
              { after with readers := s.readers ++ after.readers }
            if during.isStopped then restore during
            else if goes then restore (run fuel inner during.refresh)
            else if s.dialect = .bash then settle fuel (restore during).refuse
            else (restore during).refuse
        | .calculation line expression =>
            let s := announce fuel c line s
            match calculated fuel expression s with
            | (s, .ok n) => settle fuel (if s.isStopped then s else (s.decided n).alone)
            | (s, .error .unset) => s.abandonUnset
            | (s, .error _) =>
                settle fuel ((s.report (expression ++ ": arithmetic error".toList)).withStatus 1)
        | .judgement line j =>
            let s := announce fuel c line s
            let (s, v) := judge fuel j s
            settle fuel (if s.isStopped then s else (s.withStatus v.status).alone)

end

end KeyMenu.Sh
