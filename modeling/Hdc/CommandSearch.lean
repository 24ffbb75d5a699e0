import Hdc.CommandHop

/- What the command search of the host tool finds (`split_opt_and_cmd` and `parse_command` in
   `hdc/src/parser.rs`).

   A window is up to three words in a row; it matches if its words, joined with spaces, are a name
   in `CMD_MAP`. On words that have no space

   1. the inner loop returns the longest window that matches at its position (`scanLens_longest`):
      it stops at the first one, except after `fport` and `rport`, and no other name of one word
      starts a longer name;
   2. the outer loop returns the first position with such a window (`scanCommands_leftmost`): what
      it scans after an `fport` or `rport` changes nothing (`scanCommands_opened`).

   `parse_command` then looks for the `-` of `shell -` in the place of the `shell`
   (`shell_head`). -/
namespace Hdc
open Rust

/-! Windows. -/

/-- The command of the first `len` words. -/
def windowAt (words : List String) (len : Nat) : Option HdcCommand :=
  if 1 ≤ len ∧ len ≤ maxCmdLen ∧ len ≤ words.length then
    cmdMap.lookup (String.intercalate " " (words.take len))
  else none

/-- The command of the longest window at the start of the words. -/
def longestWindow (words : List String) : Option HdcCommand :=
  (windowAt words 3).or ((windowAt words 2).or (windowAt words 1))

theorem windowAt_eq_some {words : List String} {len : Nat} {command : HdcCommand}
    (h : windowAt words len = some command) :
    0 < len ∧ len ≤ maxCmdLen ∧ len ≤ words.length ∧
      cmdMap.lookup (String.intercalate " " (words.take len)) = some command := by
  unfold windowAt at h
  split at h
  · rename_i hlen
    exact ⟨hlen.1, hlen.2.1, hlen.2.2, h⟩
  · cases h

theorem windowAt_words {words : List String} {len : Nat} {command : HdcCommand}
    (hspaceless : Spaceless words) (h : windowAt words len = some command) :
    (words.take len, command) ∈ commandWords ∧ (words.take len).length = len := by
  obtain ⟨hpos, -, hlen, hlookup⟩ := windowAt_eq_some h
  have hne : words.take len ≠ [] := by
    intro hnil
    have := congrArg List.length hnil
    rw [List.length_take_of_le hlen, List.length_nil] at this
    omega
  exact ⟨lookup_words (hspaceless.take len) hne hlookup, List.length_take_of_le hlen⟩

/-- The names have one word or two. One of two words does not open a forward; if its first word is a
name as well, that one does, and the longer one may take its place. -/
def nameChecked : List String × HdcCommand → Bool
  | ([_], _) => true
  | ([first, _], long) => !opensForward long &&
      (cmdMap.lookup first).all fun short => opensForward short && asksForward long
  | _ => false

theorem commandWords_checked : commandWords.all nameChecked = true := by decide

theorem windowAt_checked {words : List String} {len : Nat} {command : HdcCommand}
    (h : Spaceless words) (hwindow : windowAt words len = some command) :
    nameChecked (words.take len, command) = true :=
  List.all_eq_true.mp commandWords_checked _ (windowAt_words h hwindow).1

/-- The words of a window of two. -/
theorem windowAt_two_words {words : List String} {command : HdcCommand}
    (hwindow : windowAt words 2 = some command) :
    ∃ first second rest, words = first :: second :: rest := by
  have hlen := (windowAt_eq_some hwindow).2.2.1
  match words, hlen with
  | first :: second :: rest, _ => exact ⟨first, second, rest, rfl⟩

theorem windowAt_three {words : List String} (h : Spaceless words) : windowAt words 3 = none := by
  cases hwindow : windowAt words 3 with
  | none => rfl
  | some command =>
    have hchecked := windowAt_checked h hwindow
    have hlen := (windowAt_eq_some hwindow).2.2.1
    match words, hlen with
    | _ :: _ :: _ :: _, _ => cases hchecked

/-- A window of two words that goes on from one that matches. -/
theorem windowAt_two {words : List String} {short long : HdcCommand} (h : Spaceless words)
    (hshort : windowAt words 1 = some short) (hlong : windowAt words 2 = some long) :
    opensForward short = true ∧ asksForward long = true ∧ opensForward long = false := by
  have hchecked := windowAt_checked h hlong
  obtain ⟨-, -, -, hlookup⟩ := windowAt_eq_some hshort
  obtain ⟨first, second, rest, rfl⟩ := windowAt_two_words hlong
  rw [List.take_succ_cons, List.take_zero, String.intercalate_singleton] at hlookup
  simp only [List.take_succ_cons, List.take_zero, nameChecked, hlookup, Option.all_some,
    Bool.and_eq_true, Bool.not_eq_true'] at hchecked
  exact ⟨hchecked.2.1, hchecked.2.2, hchecked.1⟩

/-- No name of two words opens a forward. -/
theorem windowAt_two_opens {words : List String} {command : HdcCommand} (h : Spaceless words)
    (hwindow : windowAt words 2 = some command) : opensForward command = false := by
  have hchecked := windowAt_checked h hwindow
  obtain ⟨first, second, rest, rfl⟩ := windowAt_two_words hwindow
  simp only [List.take_succ_cons, List.take_zero, nameChecked, Bool.and_eq_true,
    Bool.not_eq_true'] at hchecked
  exact hchecked.1

/-! The inner loop. -/

theorem scanLens_cons (st : Nat) (words : List String) (len : Nat) (lens : List Nat) (found : Found)
    (hpos : 1 ≤ len ∧ len ≤ maxCmdLen) :
    scanLens st words (len :: lens) found =
      if words.length < len then found
      else match windowAt words len with
        | none => scanLens st words lens found
        | some command =>
          if found.1.any opensForward && !asksForward command then found
          else if opensForward command then scanLens st words lens (some command, st)
          else (some command, st) := by
  rw [scanLens]
  split
  · rfl
  · rename_i hlen
    rewrite [windowAt, if_pos ⟨hpos.1, hpos.2, Nat.le_of_not_lt hlen⟩]
    rfl

/-- From nothing, the loop comes to the longest window. -/
theorem scanLens_longest {words : List String} (h : Spaceless words) (st i : Nat) :
    scanLens st words (List.range' 1 maxCmdLen) (none, i) =
      match longestWindow words with
      | some command => (some command, st)
      | none => (none, i) := by
  -- the window of three words never matches
  have hlast : ∀ found, scanLens st words [3] found = found := by
    intro found
    rw [scanLens_cons st words 3 [] found (by decide), windowAt_three h]
    split <;> rfl
  have hnone : ∀ len, words.length < len → windowAt words len = none := by
    intro len hlen
    rw [windowAt, if_neg]
    rintro ⟨-, -, hle⟩
    omega
  rw [longestWindow, windowAt_three h, Option.none_or]
  show scanLens st words [1, 2, 3] (none, i) = _
  rw [scanLens_cons st words 1 [2, 3] (none, i) (by decide)]
  split
  · rename_i hlen
    rw [hnone 1 hlen, hnone 2 (Nat.lt_succ_of_lt hlen)]
    rfl
  · cases hone : windowAt words 1 with
    | none =>
      simp only [Option.or_none]
      rw [scanLens_cons st words 2 [3] (none, i) (by decide)]
      split
      · rename_i hlen
        rw [hnone 2 hlen]
      · cases htwo : windowAt words 2 with
        | none => exact hlast _
        | some command => simp [windowAt_two_opens h htwo]
    | some short =>
      cases hopens : opensForward short with
      | false =>
        have htwo : windowAt words 2 = none := by
          cases htwo : windowAt words 2 with
          | none => rfl
          | some long =>
            have := (windowAt_two h hone htwo).1
            rw [hopens] at this
            cases this
        simp [hopens, htwo]
      | true =>
        simp only [Option.any_none, Bool.false_and, Bool.false_eq_true, ↓reduceIte, hopens]
        rw [scanLens_cons st words 2 [3] (some short, st) (by decide)]
        split
        · rename_i hlen
          rw [hnone 2 hlen]
          rfl
        · cases htwo : windowAt words 2 with
          | none => exact hlast _
          | some long =>
            obtain ⟨-, hasks, hlong⟩ := windowAt_two h hone htwo
            simp [hasks, hlong]

/-! The outer loop. -/

/-- The first position that has a window, with the command of its longest one. -/
def firstWindow : Nat → List String → Option (HdcCommand × Nat)
  | _, [] => none
  | st, word :: words =>
    match longestWindow (word :: words) with
    | some command => some (command, st)
    | none => firstWindow (st + 1) words

theorem scanCommands_leftmost (i : Nat) : ∀ {words : List String} (st : Nat), Spaceless words →
    scanCommands st words (none, i) =
      match firstWindow st words with
      | some (command, idx) => (some command, idx)
      | none => (none, i)
  | [], st, _ => rfl
  | word :: words, st, h => by
    rw [scanCommands, scanLens_longest h, firstWindow]
    cases hwindow : longestWindow (word :: words) with
    | none => exact scanCommands_leftmost i (st + 1) h.tail
    | some command =>
      cases hopens : opensForward command with
      | false => simp [hopens]
      | true =>
        simp only [Option.any_some, hopens, Bool.not_true, Bool.false_eq_true, ↓reduceIte]
        exact scanCommands_opened hopens h.tail

/-- Where `firstWindow` finds a window, none starts before. -/
theorem firstWindow_eq_some : ∀ {words : List String} {st : Nat} {command : HdcCommand} {idx : Nat},
    firstWindow st words = some (command, idx) → ∃ n, idx = st + n ∧ n < words.length ∧
      longestWindow (words.drop n) = some command ∧
      ∀ m < n, longestWindow (words.drop m) = none
  | word :: words, st, command, idx, h => by
    rw [firstWindow] at h
    cases hwindow : longestWindow (word :: words) with
    | some found =>
      rw [hwindow] at h
      cases h
      exact ⟨0, rfl, Nat.succ_pos _, hwindow, fun m hm => absurd hm (Nat.not_lt_zero m)⟩
    | none =>
      rw [hwindow] at h
      obtain ⟨n, hidx, hlt, hfound, hbefore⟩ := firstWindow_eq_some h
      refine ⟨n + 1, by omega, Nat.succ_lt_succ hlt, hfound, fun m hm => ?_⟩
      cases m with
      | zero => exact hwindow
      | succ m => exact hbefore m (Nat.lt_of_succ_lt_succ hm)

theorem firstWindow_eq_none : ∀ {words : List String} {st : Nat},
    firstWindow st words = none → ∀ n < words.length, longestWindow (words.drop n) = none
  | [], _, _, n, hn => absurd hn (Nat.not_lt_zero n)
  | word :: words, st, h, n, hn => by
    rw [firstWindow] at h
    cases hwindow : longestWindow (word :: words) with
    | some found =>
      rw [hwindow] at h
      cases h
    | none =>
      rw [hwindow] at h
      cases n with
      | zero => exact hwindow
      | succ n => exact firstWindow_eq_none h n (Nat.lt_of_succ_lt_succ hn)

theorem longestWindow_eq_none {words : List String} :
    longestWindow words = none ↔ ∀ len, windowAt words len = none := by
  constructor
  · intro h len
    simp only [longestWindow, Option.or_eq_none_iff] at h
    obtain ⟨hthree, htwo, hone⟩ := h
    by_contra hne
    obtain ⟨command, hcommand⟩ := Option.ne_none_iff_exists'.mp hne
    obtain ⟨hpos, hmax, -, -⟩ := windowAt_eq_some hcommand
    have hcases : len = 1 ∨ len = 2 ∨ len = 3 := by
      unfold maxCmdLen at hmax
      omega
    rcases hcases with rfl | rfl | rfl
    · exact hne hone
    · exact hne htwo
    · exact hne hthree
  · intro h
    rw [longestWindow, h 1, h 2, h 3]
    rfl

theorem longestWindow_eq_some {words : List String} {command : HdcCommand}
    (h : longestWindow words = some command) :
    ∃ len, windowAt words len = some command ∧ ∀ len', len < len' → windowAt words len' = none := by
  have hlong : ∀ len', 3 < len' → windowAt words len' = none := by
    intro len' hlen
    rw [windowAt, if_neg]
    rintro ⟨-, hmax, -⟩
    unfold maxCmdLen at hmax
    omega
  unfold longestWindow at h
  cases hthree : windowAt words 3 with
  | some three =>
    rw [hthree] at h
    cases h
    exact ⟨3, hthree, hlong⟩
  | none =>
    rw [hthree, Option.none_or] at h
    cases htwo : windowAt words 2 with
    | some two =>
      rw [htwo] at h
      cases h
      refine ⟨2, htwo, fun len' hlen => ?_⟩
      rcases Nat.lt_or_ge 3 len' with hlen' | hlen'
      · exact hlong len' hlen'
      · rw [show len' = 3 by omega, hthree]
    | none =>
      rw [htwo, Option.none_or] at h
      refine ⟨1, h, fun len' hlen => ?_⟩
      rcases Nat.lt_or_ge 3 len' with hlen' | hlen'
      · exact hlong len' hlen'
      · have hcases : len' = 2 ∨ len' = 3 := by omega
        rcases hcases with rfl | rfl
        · exact htwo
        · exact hthree

/-! The search as a whole. -/

/-- The command of the window of `len` words at position `st`. -/
def window (input : List String) (st len : Nat) : Option HdcCommand := windowAt (input.drop st) len

theorem splitOptAndCmd_of_no_window {input : List String} (hspaceless : Spaceless input)
    (h : ∀ st len, window input st len = none) : splitOptAndCmd input = ⟨input, none, []⟩ := by
  have hscan := scanCommands_leftmost input.length 0 hspaceless
  cases hfirst : firstWindow 0 input with
  | none =>
    rw [hfirst] at hscan
    rw [splitOptAndCmd, hscan]
    simp
  | some result =>
    obtain ⟨n, -, -, hlongest, -⟩ := firstWindow_eq_some hfirst
    cases hlongest.symm.trans (longestWindow_eq_none.mpr (h n))

/-- The search splits the input at the first position that has a window, and returns the command of
the longest window there. -/
structure LeftmostLongest (input : List String) (parsed : Parsed) : Prop where
  split : parsed.options ++ parsed.parameters = input
  nothing : (parsed.command = none ∧ parsed.parameters = []) ↔ ∀ st len, window input st len = none
  unfound : parsed.command = none → parsed.parameters = []
  found : ∀ command, parsed.command = some command → ∃ st len, st < input.length ∧
    parsed.parameters = input.drop st ∧ window input st len = some command ∧
    (∀ len', len < len' → window input st len' = none) ∧
    ∀ st' len', st' < st → window input st' len' = none

theorem search_leftmost_longest (input : List String) (hspaceless : Spaceless input) :
    LeftmostLongest input (splitOptAndCmd input) := by
  cases hfirst : firstWindow 0 input with
  | none =>
    have hwindows : ∀ st len, window input st len = none := by
      intro st len
      rcases Nat.lt_or_ge st input.length with hst | hst
      · exact longestWindow_eq_none.mp (firstWindow_eq_none hfirst st hst) len
      · rw [window, List.drop_eq_nil_of_le hst, windowAt, if_neg]
        rintro ⟨hpos, -, hlen⟩
        rw [List.length_nil] at hlen
        omega
    rw [splitOptAndCmd_of_no_window hspaceless hwindows]
    exact ⟨List.append_nil input, iff_of_true ⟨rfl, rfl⟩ hwindows, fun _ => rfl,
      fun command hcommand => by cases hcommand⟩
  | some result =>
    obtain ⟨command, idx⟩ := result
    have hscan := scanCommands_leftmost input.length 0 hspaceless
    rw [hfirst] at hscan
    obtain ⟨n, hidx, hlt, hlongest, hbefore⟩ := firstWindow_eq_some hfirst
    rw [Nat.zero_add] at hidx
    subst hidx
    obtain ⟨len, hwindow, hlonger⟩ := longestWindow_eq_some hlongest
    have hparsed : splitOptAndCmd input = ⟨input.take idx, some command, input.drop idx⟩ := by
      rw [splitOptAndCmd, hscan]
    rw [hparsed]
    refine ⟨List.take_append_drop idx input, iff_of_false (fun h => ?_) (fun h => ?_),
      fun h => ?_, fun found hfound => ?_⟩
    · cases h.1
    · cases hwindow.symm.trans (h idx len)
    · cases h
    · cases hfound
      exact ⟨idx, len, hlt, rfl, hwindow, hlonger,
        fun st' len' hst => longestWindow_eq_none.mp (hbefore st' hst) len'⟩

theorem search_leftmost_longest_fport :
    LeftmostLongest ["-t", "SN1", "fport", "ls", "rport", "shell"]
        (splitOptAndCmd ["-t", "SN1", "fport", "ls", "rport", "shell"]) ∧
      (splitOptAndCmd ["-t", "SN1", "fport", "ls", "rport", "shell"]).command =
        some .forwardList :=
  ⟨search_leftmost_longest _ (by decide), by decide⟩

/-! The form `shell -`. -/

/-- What has been found is the command of a window at the place that has been found. -/
def FoundIn (input : List String) (found : Found) : Prop :=
  ∀ command, found.1 = some command → ∃ len, window input found.2 len = some command

theorem scanLens_foundIn {input : List String} (st : Nat) : ∀ {lens : List Nat} {found : Found},
    (∀ len ∈ lens, 1 ≤ len ∧ len ≤ maxCmdLen) → FoundIn input found →
    FoundIn input (scanLens st (input.drop st) lens found)
  | [], _, _, h => h
  | len :: lens, found, hlens, h => by
    have hrest : ∀ len' ∈ lens, 1 ≤ len' ∧ len' ≤ maxCmdLen :=
      fun len' hlen' => hlens len' (List.mem_cons_of_mem _ hlen')
    rw [scanLens_cons st _ len lens found (hlens len List.mem_cons_self)]
    split
    · exact h
    · split
      · exact scanLens_foundIn st hrest h
      · rename_i command hwindow
        have hhere : FoundIn input (some command, st) := by
          rintro other ⟨⟩
          exact ⟨len, hwindow⟩
        split
        · exact h
        · split
          · exact scanLens_foundIn st hrest hhere
          · exact hhere

theorem scanCommands_foundIn {input : List String} : ∀ {words : List String} {st : Nat}
    {found : Found}, words = input.drop st → FoundIn input found →
    FoundIn input (scanCommands st words found)
  | [], _, _, _, h => h
  | word :: words, st, found, hwords, h => by
    have hlens : ∀ len ∈ List.range' 1 maxCmdLen, 1 ≤ len ∧ len ≤ maxCmdLen := by decide
    have hnow := scanLens_foundIn st hlens h
    rw [← hwords] at hnow
    rw [scanCommands]
    split
    · exact hnow
    · refine scanCommands_foundIn ?_ hnow
      rw [← List.tail_drop, ← hwords, List.tail_cons]

/-- A text without a space is joined from one word only. -/
theorem intercalate_spaceless {words : List String} {name : String} (hname : ' ' ∉ name.toList)
    (hne : words ≠ []) (h : String.intercalate " " words = name) : words = [name] := by
  cases words with
  | nil => exact absurd rfl hne
  | cons word words =>
    cases words with
    | nil =>
      rw [String.intercalate_singleton] at h
      rw [h]
    | cons next words =>
      refine absurd ?_ hname
      rw [← h, String.toList_intercalate]
      simp

/-- The parameters of `shell` start with it. -/
theorem shell_head {input : List String}
    (h : (splitOptAndCmd input).command = some .unityExecute) :
    ∃ args, (splitOptAndCmd input).parameters = "shell" :: args := by
  have hfound : FoundIn input (scanCommands 0 input (none, input.length)) :=
    scanCommands_foundIn rfl (by rintro command ⟨⟩)
  obtain ⟨len, hwindow⟩ := hfound _ h
  obtain ⟨hpos, -, hlen, hlookup⟩ := windowAt_eq_some hwindow
  have hnames : ∀ entry ∈ cmdMap, entry.2 = .unityExecute → entry.1 = "shell" := by decide
  obtain ⟨before, after, heq, -⟩ := List.lookup_eq_some_iff.mp hlookup
  have hname := hnames _ (by rw [heq]; exact List.mem_append_right _ List.mem_cons_self) rfl
  show ∃ args, input.drop (scanCommands 0 input (none, input.length)).2 = "shell" :: args
  cases hparams : input.drop (scanCommands 0 input (none, input.length)).2 with
  | nil =>
    rw [hparams, List.length_nil] at hlen
    omega
  | cons word args =>
    obtain ⟨n, rfl⟩ := Nat.exists_eq_succ_of_ne_zero (Nat.pos_iff_ne_zero.mp hpos)
    rw [hparams, List.take_succ_cons] at hname
    have hone := intercalate_spaceless (by decide) (List.cons_ne_nil _ _) hname
    rw [(List.cons.inj hone).1]
    exact ⟨args, rfl⟩

/-- The search finds `shell`, and the word after it is a dash. -/
def ShellDash (input : List String) : Prop :=
  (splitOptAndCmd input).command = some .unityExecute ∧
    (splitOptAndCmd input).parameters.tail.head? = some "-"

instance (input : List String) : Decidable (ShellDash input) :=
  inferInstanceAs (Decidable (_ ∧ _))

/-- The command is that of a bundle's shell exactly for `shell -`, and otherwise the one that was
found. -/
structure RecognisesBundle (input : List String) (parsed : ParsedCommand) : Prop where
  bundle : parsed.command = some .unityExecuteEx ↔ ShellDash input
  other : ¬ ShellDash input → parsed.command = (splitOptAndCmd input).command

/-- The test of `parse_command` never holds. -/
theorem parseCommand_command {net : NetParse} {args : List String} {parsed : ParsedCommand}
    (h : parseCommand net args = some (.ok parsed)) :
    parsed.command = (splitOptAndCmd (args.drop 1)).command := by
  simp only [parseCommand, Option.bind_eq_bind, Option.bind_eq_some_iff] at h
  obtain ⟨result, -, h⟩ := h
  cases result with
  | error e => cases h
  | ok parsedCmd =>
    cases h
    dsimp only
    split
    · rename_i hshell
      obtain ⟨args', hparams⟩ := shell_head hshell.1
      rw [hparams] at hshell
      have hdash : "shell" = "-" := Option.some.inj hshell.2.2
      exact absurd hdash (by decide)
    · rfl

theorem splitOptAndCmd_ne_bundle (input : List String) :
    (splitOptAndCmd input).command ≠ some .unityExecuteEx := by
  intro h
  have hfound : FoundIn input (scanCommands 0 input (none, input.length)) :=
    scanCommands_foundIn rfl (by rintro command ⟨⟩)
  obtain ⟨len, hwindow⟩ := hfound _ h
  obtain ⟨-, -, -, hlookup⟩ := windowAt_eq_some hwindow
  obtain ⟨before, after, heq, -⟩ := List.lookup_eq_some_iff.mp hlookup
  have hnames : ∀ entry ∈ cmdMap, entry.2 ≠ .unityExecuteEx := by decide
  exact hnames _ (by rw [heq]; exact List.mem_append_right _ List.mem_cons_self) rfl

theorem bundle_recognised_iff (net : NetParse) (args : List String) (parsed : ParsedCommand)
    (hparse : parseCommand net args = some (.ok parsed)) :
    RecognisesBundle (args.drop 1) parsed ↔ ¬ ShellDash (args.drop 1) := by
  have hcommand := parseCommand_command hparse
  have hnever : parsed.command ≠ some .unityExecuteEx :=
    hcommand ▸ splitOptAndCmd_ne_bundle (args.drop 1)
  constructor
  · intro h hdash
    exact hnever (h.bundle.mpr hdash)
  · intro hnot
    exact ⟨iff_of_false hnever hnot, fun _ => hcommand⟩

/-- `hdc shell ls`. -/
def shellList : ParsedCommand where
  launchServer := true
  logLevel := 3
  serverAddr := "127.0.0.1:8710"
  forwardListenIp := "127.0.0.1"
  command := some .unityExecute
  parameters := ["shell", "ls"]

theorem bundle_recognised_list : RecognisesBundle ["shell", "ls"] shellList :=
  (bundle_recognised_iff noAddresses ["hdc", "shell", "ls"] shellList (by decide)).mpr
    (by decide)

/-- `hdc shell - ls` is taken for a plain shell command. -/
theorem bundle_unrecognised :
    ShellDash ["shell", "-", "ls"] ∧
      ∃ parsed, parseCommand noAddresses ["hdc", "shell", "-", "ls"] = some (.ok parsed) ∧
        parsed.command = some .unityExecute ∧ ¬ RecognisesBundle ["shell", "-", "ls"] parsed := by
  refine ⟨by decide, _, rfl, by decide, fun h => ?_⟩
  exact absurd (h.bundle.mpr (by decide)) (by decide)

end Hdc
