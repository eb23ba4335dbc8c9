import KeyMenu.CommandLine.Program
import KeyMenu.Proofs.File.Disk
import KeyMenu.Proofs.Session.Turn
import KeyMenu.Proofs.Tree.Stray

/-!
# How the program exits

The exit status of a run tells how its session ended: well, by a command that did not succeed, by
someone who stopped it, or by a failure that is told. There are five things that the program does
not provide for; then it has no exit status.

* `Level.NoNumber`, `Level.ofText_eq_malformed_iff`: digits that spell no level;
* `Program.Holds`, `Program.Fails`, `Program.Exits`: what comes of a request, and its status;
* `Program.Unforeseen`: what is not provided for;
* `Program.exits_or_unforeseen`: one of the two it is;
* `Program.run_exitStatus`: the main theorem.
-/

namespace KeyMenu

/-! ### Levels of the log -/

namespace Level

/-- Digits that spell no number: not all of them are decimal digits, or there are too many. -/
structure NoNumber (word : Text) : Prop where
  ne_nil : word ≠ []
  digits : ∀ c ∈ word, isDigitLike c = true
  unread : (∃ c ∈ word, decimalValue? c = none) ∨ maxDigits < word.length

/-- Digits spell a number unless one of them is no decimal digit. -/
theorem numeral?_eq_none_iff {word : Text} (hne : word ≠ []) :
    Text.numeral? word = none ↔ ∃ c ∈ word, decimalValue? c = none := by
  rw [Text.numeral?, if_neg (by simpa using hne), Option.map_eq_none_iff, Text.decimalDigits?]
  constructor
  · intro hnone
    by_contra hall
    push Not at hall
    obtain ⟨digits, hdigits⟩ := exists_mapM fun c hc => Option.ne_none_iff_exists'.1 (hall c hc)
    cases hnone.symm.trans hdigits
  · rintro ⟨c, hc, hvalue⟩
    by_contra hsome
    obtain ⟨digits, hdigits⟩ := Option.ne_none_iff_exists'.1 hsome
    have hmem := List.mem_map_of_mem (f := decimalValue?) hc
    rw [mapM_eq_some_iff.1 hdigits, hvalue] at hmem
    obtain ⟨digit, -, hdigit⟩ := List.mem_map.1 hmem
    cases hdigit

/-- A level is malformed exactly if it is spelled in digits that are no number. -/
theorem ofText_eq_malformed_iff {t : Text} :
    ofText t = .malformed ↔ NoNumber (t.strip.map capital) := by
  rw [ofText]
  generalize t.strip.map capital = word
  by_cases hdigits : word ≠ [] ∧ ∀ c ∈ word, isDigitLike c = true
  · obtain ⟨hne, hdigits⟩ := hdigits
    have hword : (!word.isEmpty && word.all isDigitLike) = true := by
      simpa [hne] using hdigits
    simp only [hword, if_true]
    cases hvalue : Text.numeral? word with
    | none =>
        have hother := (numeral?_eq_none_iff hne).1 hvalue
        simpa using (⟨hne, hdigits, .inl hother⟩ : NoNumber word)
    | some n =>
        have hdecimal : ¬ ∃ c ∈ word, decimalValue? c = none := fun hother =>
          Option.some_ne_none n (hvalue.symm.trans ((numeral?_eq_none_iff hne).2 hother))
        by_cases hlong : word.length ≤ maxDigits
        · simp only [if_pos hlong, reduceCtorEq, false_iff]
          rintro ⟨-, -, hother | hmany⟩
          · exact hdecimal hother
          · exact Nat.not_lt.2 hlong hmany
        · simp only [if_neg hlong, true_iff]
          exact ⟨hne, hdigits, .inr (Nat.lt_of_not_le hlong)⟩
  · have hword : ¬ (!word.isEmpty && word.all isDigitLike) = true := by
      simpa using hdigits
    rw [if_neg hword]
    have hnumber : ¬ NoNumber word := fun h => hdigits ⟨h.ne_nil, h.digits⟩
    cases named.find? (·.1 == word) <;> simp [hnumber]

end Level

/-! ### Searching for the configuration -/

namespace Location

variable {d : Disk}

/-- A name that is too long, in the directory of the given names, last one first, or above. -/
theorem exists_of_nearest_eq_error {names : List Text} {fault : FileFault}
    (h : nearest d names = .error fault) :
    ∃ above, above <+: names.reverse ∧
      d.isFile ((directory above).child fileName) = .error .nameTooLong := by
  have hcandidate {names : List Text} (h : candidate d names = .error fault) :
      d.isFile ((directory names.reverse).child fileName) = .error .nameTooLong := by
    rw [candidate] at h
    cases hfile : d.isFile ((directory names.reverse).child fileName) with
    | error fault => rw [Disk.eq_nameTooLong_of_isFile hfile]
    | ok found =>
        simp only [hfile] at h
        cases h
  induction names with
  | nil => exact ⟨[], List.nil_prefix, hcandidate h⟩
  | cons name names ih =>
      rw [nearest] at h
      cases hfirst : candidate d (name :: names) with
      | error fault' =>
          rw [hfirst] at h
          cases h
          exact ⟨_, List.prefix_rfl, hcandidate hfirst⟩
      | ok found =>
          rw [hfirst] at h
          cases found with
          | some found => cases h
          | none =>
              obtain ⟨above, habove, hlong⟩ := ih h
              rw [List.reverse_cons]
              exact ⟨above, habove.trans (List.prefix_append _ _), hlong⟩

/-- A search from a directory on fails for a null character in its path, or for a name that is too
long there or above. -/
theorem exists_of_search_eq_fault {start : Path} {fault : FileFault}
    (h : search d start = .error (.fault fault)) :
    '\x00' ∈ start.toText ∨ ∃ above, above <+: d.resolve start ∧
      d.isFile ((directory above).child fileName) = .error .nameTooLong := by
  rw [search] at h
  by_cases hnull : '\x00' ∈ start.toText
  · exact .inl hnull
  · rw [if_neg hnull] at h
    cases hnearest : nearest d (d.resolve start).reverse with
    | error fault =>
        obtain ⟨above, habove, hlong⟩ := exists_of_nearest_eq_error hnearest
        rw [List.reverse_reverse] at habove
        exact .inr ⟨above, habove, hlong⟩
    | ok found =>
        rw [hnearest] at h
        cases found <;> cases h

end Location

/-! ### What comes of a request -/

/-- The failures of a session that are told, but for those of its commands. -/
inductive Failure.IsTold : Failure → Prop
  | unmatched (error : UnmatchedKeys) : IsTold (.unmatched error)
  | unsplittable (error : Text.UnsplittableText) : IsTold (.unsplittable error)
  | noKeys : IsTold .noKeys
  | malformedShell (error : SyntaxError) : IsTold (.malformedShell (.grammar error))

/-- The exit status, where the program provides one. -/
def ProgramEnd.exitStatus? : ProgramEnd → Option Int
  | .misused _ => some 2
  | .helped => some 0
  | .toldVersion => some 0
  | .malformedLevel => none
  | .ran report => report.exitStatus?

/-- The shell of the environment is neither read nor refused by the grammar exactly if it goes wrong
at white space that is no gap. -/
theorem Shell.exists_of_ofEnvironment {environ : Environment}
    (h : Shell.ofEnvironment environ = .error .strayBlank) :
    ∃ spelled, environ.filled? Environment.shellName = some spelled ∧ spelled.strip.StrayLine := by
  rw [ofEnvironment] at h
  cases hspelled : environ.filled? Environment.shellName with
  | none =>
      rw [hspelled] at h
      cases h
  | some spelled =>
      simp only [hspelled] at h
      refine ⟨spelled, rfl, Shell.parse_eq_strayBlank_iff.1 ?_⟩
      cases hparse : Shell.parse spelled with
      | ok shell =>
          rw [hparse] at h
          cases h
      | error error =>
          rw [hparse] at h
          cases error with
          | grammar error => cases h
          | strayBlank => rfl

namespace Session

variable {s : Session}

/-- However a session fails, it fails as sessions can. -/
theorem canFail_run (h : s.config.WellFormed) (keys : Option Text) (typed : List Text)
    (script : Script) {failure : Failure}
    (hresult : (s.run keys typed script).result = .error failure) :
    s.CanFail keys (s.run keys typed script).events failure := by
  rw [run_eq_resume] at hresult ⊢
  exact resume_canFail h (first_sound h keys script) typed hresult

/-- There is an account of the calls of every session. -/
theorem account_run (h : s.config.WellFormed) (keys : Option Text) (typed : List Text)
    (script : Script) :
    ∃ launches, s.Account s.extra script.statuses launches (s.run keys typed script) := by
  rw [run_eq_resume, first]
  cases keys.filter (!·.isEmpty) with
  | some keys => exact account_replay h script keys typed
  | none =>
      by_cases hterminal : s.interactive = true
      · simp only [if_pos hterminal]
        exact account_readOn h typed (m := s.opening script) .start
      · simp only [if_neg hterminal]
        exact ⟨[], account_at_once fun _ _ => Failure.noConfusion⟩

end Session

namespace Program

/-- Where the configuration is that a request asks for. -/
def located (host : Host) (request : Request) : Except LocationError Location :=
  host.disk.locate host.environ host.home request.config request.isLocal none

/-- The configuration is found, and its file holds the text. -/
structure Reads (host : Host) (request : Request) (location : Location) (text : Text) : Prop where
  found : located host request = .ok location
  held : ∃ bytes content, host.disk.read location.path = .ok bytes ∧
    Text.ofBytes bytes = .ok content ∧ text = content.unifyNewlines

/-- The session that is held, once a configuration has been read and a policy chosen. -/
inductive Holds (host : Host) (request : Request) : Session → Prop
  | held {location : Location} {text : Text} {config : Config} {policy : InvalidKeyPolicy}
      (hreads : Reads host request location text) (hconfig : Config.ofText text = .ok config)
      (hpolicy : InvalidKeyPolicy.choose (request.policy.map (·.name)) host.environ = .ok policy) :
      Holds host request (session host request config location.workdir policy)

/-- How a session ends that a request asks for. -/
def ending (host : Host) (request : Request) (s : Session) : SessionEnd :=
  s.run request.keys host.typed host.script

/-- What is told as an error: no configuration is found, its file cannot be read or is no UTF-8,
its text does not follow the grammar or is no sound configuration, there is no such policy, or the
session fails for what is typed, for a lack of keys, or for the shell that the environment names. -/
inductive Fails (host : Host) (request : Request) : Prop
  | unlocated {start : Path} (h : located host request = .error (.nothingAbove start))
  | unreadable {location : Location} {fault : FileFault}
      (hlocated : located host request = .ok location)
      (hread : host.disk.read location.path = .error fault)
      (hnull : '\x00' ∉ location.path.toText)
  | badEncoding {location : Location} {bytes : List UInt8} {error : EncodingError}
      (hlocated : located host request = .ok location)
      (hread : host.disk.read location.path = .ok bytes)
      (hbytes : Text.ofBytes bytes = .error error)
  | malformed {location : Location} {text : Text} {error : SyntaxError}
      (hreads : Reads host request location text)
      (hconfig : Config.ofText text = .error (.parse (.grammar error)))
  | unsound {location : Location} {text : Text} {faults : List Fault}
      (hreads : Reads host request location text)
      (hconfig : Config.ofText text = .error (.model faults))
  | unadvised {location : Location} {text : Text} {config : Config} {error : UnknownPolicy}
      (hreads : Reads host request location text) (hconfig : Config.ofText text = .ok config)
      (hpolicy : InvalidKeyPolicy.choose (request.policy.map (·.name)) host.environ = .error error)
  | session {s : Session} {failure : Failure} (hs : Holds host request s)
      (hresult : (ending host request s).result = .error failure) (htold : failure.IsTold)

/-- The exit status: zero if the session ends well; that of the process if the last command that was
started did not succeed; one number if someone stops the session or the input ends, and another one
for all that is told as an error. -/
inductive Exits (host : Host) (request : Request) : Int → Prop
  | returned {s : Session} (hs : Holds host request s)
      (hresult : (ending host request s).result = .ok ()) : Exits host request 0
  | exited {s : Session} {launches : List Launch} {last : Launch} (hs : Holds host request s)
      (haccount : s.Account s.extra host.script.statuses launches (ending host request s))
      (hlast : launches.getLast? = some last) (hfails : ¬ last.Succeeds) :
      Exits host request last.status
  | stopped {s : Session} (hs : Holds host request s)
      (hresult : (ending host request s).result = .error .interrupted ∨
        (ending host request s).result = .error .endOfInput) : Exits host request 130
  | failed (h : Fails host request) : Exits host request 1

/-- What is not provided for: the level of the log is spelled in digits that are no number; a search
meets a null character, or a name that is too long to be asked for; there is a null character in
the path of the configuration; a shell line of its text goes wrong at white space that is no gap;
or so does the shell of the environment, where the file names none and a command needs one. -/
inductive Unforeseen (host : Host) (request : Request) : Prop
  | level {spelled : Text} (hquiet : request.verbosity = 0)
      (hspelled : Table.get? host.environ Environment.logName = some spelled)
      (hnumber : Level.NoNumber (spelled.strip.map Level.capital))
  | search {fault : FileFault} (hlocal : request.config = none ∧ request.isLocal = true)
      (hsearch : located host request = .error (.fault fault))
      (hcause : '\x00' ∈ (Location.directory host.disk.here).toText ∨
        ∃ above, above <+: host.disk.resolve (Location.directory host.disk.here) ∧
          host.disk.isFile ((Location.directory above).child Location.fileName) =
            .error .nameTooLong)
  | path {location : Location} (hlocated : located host request = .ok location)
      (hnull : '\x00' ∈ location.path.toText)
  | line {location : Location} {text : Text} {c : Cursor}
      (hreads : Reads host request location text) (hshell : Rule.ReachesShell (.start text) c)
      (hstray : c.rest.BeginsStray)
  | shell {s : Session} {spelled : Text} (hs : Holds host request s)
      (hfile : s.config.settings.shell = none)
      (hspelled : host.environ.filled? Environment.shellName = some spelled)
      (hstray : spelled.strip.StrayLine)
      (hneeded : (ending host request s).result = .error (.malformedShell .strayBlank))

/-! ### Step by step -/

variable {host : Host} {request : Request} {s : Session}

/-- The exit status of a result. -/
def statusOf? : Except RunError Unit → Option Int
  | .ok () => some 0
  | .error error => error.exitStatus?

theorem perform_of_unlocated {error : LocationError} (h : located host request = .error error) :
    (perform host request).1 = .error (.location error) := by
  rw [located] at h
  simp only [perform, h]

theorem perform_of_unloaded {location : Location} {error : LoadError}
    (hlocated : located host request = .ok location)
    (hload : (Config.load host.disk location.path).result = .error error) :
    (perform host request).1 = .error (.load error) := by
  rw [located] at hlocated
  simp only [perform, hlocated, hload]

/-- A text that has been read is all that loading looks at. -/
theorem Reads.load {location : Location} {text : Text} (h : Reads host request location text) :
    (Config.load host.disk location.path).result =
      (Config.ofText text).mapError fun error =>
        .malformed (Config.inFile location.path error) := by
  obtain ⟨bytes, content, hread, hbytes, rfl⟩ := h.held
  rw [Config.load, hread]
  simp only [hbytes]
  cases Config.ofText content.unifyNewlines <;> rfl

theorem Reads.load_of_ok {location : Location} {text : Text} {config : Config}
    (h : Reads host request location text) (hconfig : Config.ofText text = .ok config) :
    (Config.load host.disk location.path).result = .ok config := by
  rw [h.load, hconfig]
  rfl

theorem perform_of_unadvised {location : Location} {text : Text} {config : Config}
    {error : UnknownPolicy} (h : Reads host request location text)
    (hconfig : Config.ofText text = .ok config)
    (hpolicy : InvalidKeyPolicy.choose (request.policy.map (·.name)) host.environ = .error error) :
    (perform host request).1 = .error (.policy error) := by
  have hlocated := h.found
  rw [located] at hlocated
  simp only [perform, hlocated, h.load_of_ok hconfig, hpolicy]

theorem Holds.perform (h : Holds host request s) :
    (perform host request).1 = (ending host request s).result.mapError .session := by
  obtain @⟨location, text, config, policy, hreads, hconfig, hpolicy⟩ := h
  have hlocated := hreads.found
  rw [located] at hlocated
  simp only [Program.perform, hlocated, hreads.load_of_ok hconfig, hpolicy]
  rfl

theorem Holds.wellFormed (h : Holds host request s) : s.config.WellFormed := by
  obtain ⟨hreads, hconfig, hpolicy⟩ := h
  exact Config.wellFormed_of_ofText hconfig

theorem Holds.environ (h : Holds host request s) : s.around.environ = host.environ := by
  obtain ⟨hreads, hconfig, hpolicy⟩ := h
  rfl

/-- What is told as an error has a status of its own. -/
theorem Fails.status (h : Fails host request) :
    statusOf? (perform host request).1 = some 1 := by
  cases h with
  | unlocated h =>
      rw [perform_of_unlocated h]
      rfl
  | @unreadable location fault hlocated hread hnull =>
      have hload : (Config.load host.disk location.path).result =
          .error (.unreadable location.path fault) := by
        rw [Config.load, hread]
      rw [perform_of_unloaded hlocated hload]
      have hfault : fault ≠ .nullCharacter := by
        rintro rfl
        exact hnull (Disk.read_eq_nullCharacter_iff.1 hread)
      cases fault <;> first | rfl | exact absurd rfl hfault
  | @badEncoding location bytes error hlocated hread hbytes =>
      have hload : (Config.load host.disk location.path).result =
          .error (.badEncoding location.path error) := by
        rw [Config.load, hread]
        simp only [hbytes]
      rw [perform_of_unloaded hlocated hload]
      rfl
  | malformed hreads hconfig | unsound hreads hconfig =>
      have hload := hreads.load
      rw [hconfig] at hload
      rw [perform_of_unloaded hreads.found hload]
      rfl
  | unadvised hreads hconfig hpolicy =>
      rw [perform_of_unadvised hreads hconfig hpolicy]
      rfl
  | session hs hresult htold =>
      rw [hs.perform, hresult]
      cases htold <;> rfl

theorem Exits.status {status : Int} (h : Exits host request status) :
    statusOf? (perform host request).1 = some status := by
  cases h with
  | returned hs hresult =>
      rw [hs.perform, hresult]
      rfl
  | @exited s launches last hs haccount hlast hfails =>
      obtain ⟨text, hresult⟩ := (haccount.fails last.status).2 ⟨last, hlast, rfl, hfails⟩
      rw [hs.perform, hresult]
      rfl
  | stopped hs hresult =>
      rw [hs.perform]
      rcases hresult with hresult | hresult <;> rw [hresult] <;> rfl
  | failed h => exact h.status

/-! ### Nothing else comes of a request -/

/-- The level of the log is malformed only where the environment spells it. -/
theorem level_eq_malformed_iff {verbosity : Nat} {environ : Environment} :
    level verbosity environ = .malformed ↔ verbosity = 0 ∧
      ∃ spelled, Table.get? environ Environment.logName = some spelled ∧
        Level.NoNumber (spelled.strip.map Level.capital) := by
  rw [level, Level.ofVerbosity?]
  by_cases hquiet : verbosity = 0
  · subst hquiet
    cases hspelled : Table.get? environ Environment.logName with
    | none => simp
    | some spelled => simp [Level.ofText_eq_malformed_iff]
  · have hloud : ¬ (verbosity : Int) ≤ 0 := by omega
    rw [if_neg hloud]
    split
    · simp [hquiet]
    · rename_i hnone
      split at hnone <;> cases hnone

/-- Only a search can fail for a fault of the disk. -/
theorem search_of_located {fault : FileFault} (h : located host request = .error (.fault fault)) :
    (request.config = none ∧ request.isLocal = true) ∧
      Location.search host.disk (Location.directory host.disk.here) = .error (.fault fault) := by
  rw [located, Disk.locate.eq_def] at h
  cases hconfig : request.config with
  | some path =>
      rw [hconfig] at h
      cases h
  | none =>
      rw [hconfig] at h
      by_cases hlocal : request.isLocal = true
      · simp only [if_pos hlocal] at h
        exact ⟨⟨rfl, hlocal⟩, h⟩
      · simp only [if_neg hlocal] at h
        cases h

theorem ofText_eq_strayBlank_iff {text : Text} :
    Config.ofText text = .error (.parse .strayBlank) ↔
      ∃ c, Rule.ReachesShell (.start text) c ∧ c.rest.BeginsStray := by
  rw [← Rule.file_eq_strayBlank_iff, ← Rule.parse_eq_strayBlank_iff, Config.ofText]
  change _ ↔ Tree.File.parse text = _
  cases Tree.File.parse text with
  | error error => simp
  | ok tree => cases hconfig : Config.ofTree tree <;> simp [hconfig]

/-- A session ends in a way that has a status, or for a shell that cannot be read. -/
theorem Holds.exits (hs : Holds host request s) :
    (∃ status, Exits host request status) ∨ Unforeseen host request := by
  cases hresult : (ending host request s).result with
  | ok _ => exact .inl ⟨0, .returned hs hresult⟩
  | error failure =>
      have htold (h : failure.IsTold) : ∃ status, Exits host request status :=
        ⟨1, .failed (.session hs hresult h)⟩
      have hcan := Session.canFail_run hs.wellFormed request.keys host.typed host.script hresult
      cases hcan with
      | unmatched error => exact .inl (htold (.unmatched error))
      | unsplittable error => exact .inl (htold (.unsplittable error))
      | interrupted => exact .inl ⟨130, .stopped hs (.inl hresult)⟩
      | noKeys => exact .inl (htold .noKeys)
      | running _ _ _ hrun =>
          cases hrun with
          | endOfInput => exact .inl ⟨130, .stopped hs (.inr hresult)⟩
          | exited status text =>
              obtain ⟨launches, haccount⟩ :=
                Session.account_run hs.wellFormed request.keys host.typed host.script
              obtain ⟨last, hlast, -, hfails⟩ := (haccount.fails status).1 ⟨text, hresult⟩
              exact .inl ⟨last.status, .exited hs haccount hlast hfails⟩
          | @malformedShell error hcommand hfile hread =>
              cases error with
              | grammar error => exact .inl (htold (.malformedShell error))
              | strayBlank =>
                  rw [hs.environ] at hread
                  obtain ⟨spelled, hspelled, hstray⟩ := Shell.exists_of_ofEnvironment hread
                  exact .inr (.shell hs hfile hspelled hstray hresult)

/-- Every request comes to an exit status or to something that is not provided for. -/
theorem exits_or_unforeseen (host : Host) (request : Request) :
    (∃ status, Exits host request status) ∨ Unforeseen host request := by
  have hfails (h : Fails host request) : ∃ status, Exits host request status := ⟨1, .failed h⟩
  cases hlocated : located host request with
  | error error =>
      cases error with
      | nothingAbove start => exact .inl (hfails (.unlocated hlocated))
      | fault fault =>
          obtain ⟨hlocal, hsearch⟩ := search_of_located hlocated
          exact .inr (.search hlocal hlocated (Location.exists_of_search_eq_fault hsearch))
  | ok location =>
      cases hread : host.disk.read location.path with
      | error fault =>
          by_cases hnull : '\x00' ∈ location.path.toText
          · exact .inr (.path hlocated hnull)
          · exact .inl (hfails (.unreadable hlocated hread hnull))
      | ok bytes =>
          cases hbytes : Text.ofBytes bytes with
          | error error => exact .inl (hfails (.badEncoding hlocated hread hbytes))
          | ok content =>
              have hreads : Reads host request location content.unifyNewlines :=
                ⟨hlocated, bytes, content, hread, hbytes, rfl⟩
              cases hconfig : Config.ofText content.unifyNewlines with
              | error error =>
                  cases error with
                  | model faults => exact .inl (hfails (.unsound hreads hconfig))
                  | parse error =>
                      cases error with
                      | grammar error => exact .inl (hfails (.malformed hreads hconfig))
                      | strayBlank =>
                          obtain ⟨c, hshell, hstray⟩ := ofText_eq_strayBlank_iff.1 hconfig
                          exact .inr (.line hreads hshell hstray)
              | ok config =>
                  cases hpolicy : InvalidKeyPolicy.choose (request.policy.map (·.name))
                      host.environ with
                  | error error => exact .inl (hfails (.unadvised hreads hconfig hpolicy))
                  | ok policy => exact (Holds.held hreads hconfig hpolicy).exits

theorem exitStatus_runRequest (h : level request.verbosity host.environ ≠ .malformed) :
    (runRequest host request).exitStatus? = statusOf? (perform host request).1 := by
  rw [runRequest]
  cases hlevel : level request.verbosity host.environ with
  | malformed => exact absurd hlevel h
  | unknown => rfl
  | level n => rfl

/-- What is not provided for leaves the program without a status. -/
theorem Unforeseen.status (h : Unforeseen host request) :
    (runRequest host request).exitStatus? = none := by
  by_cases hlevel : Program.level request.verbosity host.environ = .malformed
  · rw [runRequest, hlevel]
    rfl
  rw [exitStatus_runRequest hlevel]
  cases h with
  | level hquiet hspelled hnumber =>
      exact absurd (level_eq_malformed_iff.2 ⟨hquiet, _, hspelled, hnumber⟩) hlevel
  | search hlocal hsearch hcause =>
      rw [perform_of_unlocated hsearch]
      rfl
  | @path location hlocated hnull =>
      have hload : (Config.load host.disk location.path).result =
          .error (.unreadable location.path .nullCharacter) := by
        rw [Config.load, Disk.read_eq_nullCharacter_iff.2 hnull]
      rw [perform_of_unloaded hlocated hload]
      rfl
  | line hreads hshell hstray =>
      have hload := hreads.load
      rw [ofText_eq_strayBlank_iff.2 ⟨_, hshell, hstray⟩] at hload
      rw [perform_of_unloaded hreads.found hload]
      rfl
  | shell hs hfile hspelled hstray hneeded =>
      rw [hs.perform, hneeded]
      rfl

/-- The exit status of a request whose result is known, where nothing is said about the level. -/
theorem exitStatus_run {arguments : List Text}
    (h : Request.ofArguments arguments = .ok (.run request))
    (hlevel : level request.verbosity host.environ ≠ .malformed) {result : Except RunError Unit}
    (hresult : (perform host request).1 = result) :
    (run host arguments).exitStatus? = statusOf? result := by
  rw [run, h, ← hresult]
  exact exitStatus_runRequest hlevel

end Program

end KeyMenu
