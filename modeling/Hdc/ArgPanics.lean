import Hdc.CharBoundary
import Hdc.ListenAddr

/- Where the parsing of the arguments panics (`parse_command` in `hdc/src/parser.rs`).

   Two places slice a text at a byte offset.

   1. `parse_server_listen_string` takes the text before the last colon as
      `addr[..addr.len() - port_len - 1]`. The offset is that of the colon, so the subtraction does
      not underflow and the slice is at a character boundary (`parseServerListenStringChecked_eq`).
   2. `extract_global_params` takes the argument of an option as `&opt[2..]`, for every word in front
      of the command that is longer than two bytes, an option or not. The slice panics in a
      character that lies across the second byte; a word is looked at only if no option in front
      of it has been refused (`extractGlobalParamsLoop_eq_none`). -/
namespace Hdc
open Rust

/-! The slice in front of the port. -/

/-- `parse_server_listen_string` with its arithmetic and its slice checked: `none` is a panic. -/
def parseServerListenStringChecked (net : NetParse) (arg : String) : Option (IoResult String) :=
  let addr := normalizeListenAddr net arg
  let segments := split ':' addr
  let portStr := segments.getLastD ""
  match checkPort portStr with
  | .error e => some (.error e)
  | .ok port =>
    let portLen := (utf8 portStr).length
    if segments.length = 1 then some (.ok (localHost ++ ":" ++ toString port))
    else if (utf8 addr).length < portLen + 1 then none
    else
      (fromUtf8 ((utf8 addr).take ((utf8 addr).length - portLen - 1))).map fun ip =>
        match net.parseIpAddr (trimBrackets ip) with
        | some _ => .ok addr
        | none => .error ⟨.invalidInput, "-s content ip incorrect"⟩

/-- The bytes of a text with a colon, cut at the last one. -/
theorem slice_of_rsplitOnce {addr host port : String} (h : rsplitOnce ':' addr = some (host, port)) :
    (utf8 port).length + 1 ≤ (utf8 addr).length ∧
      (utf8 addr).take ((utf8 addr).length - (utf8 port).length - 1) = utf8 host := by
  obtain ⟨rfl, -⟩ := rsplitOnce_eq_some h
  have hcolon : utf8 (String.singleton ':') = [58] := by decide
  have hlen : (utf8 (host ++ String.singleton ':' ++ port)).length =
      (utf8 host).length + 1 + (utf8 port).length := by
    rw [utf8_append, utf8_append, hcolon, List.length_append, List.length_append,
      List.length_singleton]
  constructor
  · omega
  · have hcut : (utf8 host).length + 1 + (utf8 port).length - (utf8 port).length - 1 =
        (utf8 host).length := by omega
    rw [hlen, hcut, utf8_append, utf8_append, List.append_assoc, List.take_left]

theorem parseServerListenStringChecked_eq (net : NetParse) (arg : String) :
    parseServerListenStringChecked net arg = some (parseServerListenString net arg) := by
  rw [parseServerListenStringChecked]
  dsimp only
  cases hsplit : rsplitOnce ':' (normalizeListenAddr net arg) with
  | none =>
    have hlast : [normalizeListenAddr net arg].getLastD "" = normalizeListenAddr net arg := rfl
    rw [parseServerListenString_port hsplit, split_single (rsplitOnce_eq_none hsplit), hlast]
    cases checkPort (normalizeListenAddr net arg) <;> rfl
  | some pair =>
    obtain ⟨host, portStr⟩ := pair
    obtain ⟨parts, hne, hparts, -⟩ := split_of_rsplitOnce hsplit
    obtain ⟨hle, htake⟩ := slice_of_rsplitOnce hsplit
    have hlen : (parts ++ [portStr]).length ≠ 1 := by
      have := List.length_pos_iff.mpr hne
      rw [List.length_append, List.length_singleton]
      omega
    rw [parseServerListenString_host hsplit, hparts, List.getLastD_concat]
    cases checkPort portStr with
    | error e => rfl
    | ok port =>
      dsimp only
      rw [if_neg hlen, if_neg (Nat.not_lt.mpr hle), htake, fromUtf8_utf8]
      rfl

/-! The slice of an option. -/

/-- A character of the word lies across its second byte. -/
def SplitsChar (opt : String) : Prop := 2 < (utf8 opt).length ∧ isCharBoundary opt 2 = false

instance (opt : String) : Decidable (SplitsChar opt) := inferInstanceAs (Decidable (_ ∧ _))

theorem optionArg_eq_none {opt : String} {opts : List String} :
    optionArg opt opts = none ↔ SplitsChar opt := by
  unfold optionArg SplitsChar
  by_cases hlen : 2 < (utf8 opt).length
  · have hboundary := fromUtf8_drop (Nat.le_of_lt hlen)
    rw [if_pos hlen]
    constructor
    · intro hnone
      refine ⟨hlen, Bool.eq_false_iff.mpr fun h => ?_⟩
      obtain ⟨arg, harg⟩ := hboundary.mpr h
      cases hnone.symm.trans harg
    · rintro ⟨-, hfalse⟩
      cases harg : fromUtf8 ((utf8 opt).drop 2) with
      | none => rfl
      | some arg =>
        have := hboundary.mp ⟨arg, harg⟩
        rw [hfalse] at this
        cases this
  · rw [if_neg hlen]
    exact iff_of_false (by simp) fun h => hlen h.1

/-- The option is not refused with this argument. -/
def accepts (net : NetParse) (opt arg : String) : Bool := (takeGlobalParam net {} opt arg).isOk

/-- What was parsed before plays no part in that. -/
theorem takeGlobalParam_isOk (net : NetParse) (parsed : ParsedCommand) (opt arg : String) :
    (takeGlobalParam net parsed opt arg).isOk = accepts net opt arg := by
  unfold accepts takeGlobalParam
  cases parseUsize arg with
  | none =>
    cases parseServerListenString net arg <;> cases net.parseIpAddr arg <;>
      simp only [apply_ite Except.isOk] <;> rfl
  | some level =>
    cases parseServerListenString net arg <;> cases net.parseIpAddr arg <;>
      simp only [apply_ite Except.isOk] <;> rfl

/-- The loop comes past the words of `before`, with `rest` behind them. -/
def passes (net : NetParse) : List String → List String → Bool
  | [], _ => true
  | opt :: before, rest =>
    (optionArg opt (before ++ rest)).any (accepts net opt) && passes net before rest

/-- The loop panics at the first word it comes to that it cannot slice. -/
theorem extractGlobalParamsLoop_eq_none {net : NetParse} : ∀ {opts : List String}
    {parsed : ParsedCommand}, extractGlobalParamsLoop net opts parsed = none ↔
      ∃ before opt after, opts = before ++ opt :: after ∧
        passes net before (opt :: after) = true ∧ SplitsChar opt
  | [], parsed => by
    refine iff_of_false (by simp [extractGlobalParamsLoop]) ?_
    rintro ⟨before, opt, after, h, -, -⟩
    simp at h
  | opt :: opts, parsed => by
    rw [extractGlobalParamsLoop_cons]
    cases harg : optionArg opt opts with
    | none => exact iff_of_true rfl ⟨[], opt, opts, rfl, rfl, optionArg_eq_none.mp harg⟩
    | some arg =>
      have hhere : ¬ SplitsChar opt := fun h => by
        cases harg.symm.trans (optionArg_eq_none.mpr h)
      have hok := takeGlobalParam_isOk net parsed opt arg
      rw [Option.bind_some]
      cases htake : takeGlobalParam net parsed opt arg with
      | error e =>
        rw [htake] at hok
        refine iff_of_false (by simp) ?_
        rintro ⟨before, bad, after, heq, hpasses, hsplits⟩
        cases before with
        | nil =>
          cases heq
          exact hhere hsplits
        | cons first before =>
          rw [List.cons_append] at heq
          obtain ⟨rfl, rfl⟩ := List.cons.inj heq
          rw [passes, harg, Option.any_some, ← hok] at hpasses
          cases hpasses
      | ok parsed' =>
        rw [htake] at hok
        dsimp only
        rw [extractGlobalParamsLoop_eq_none]
        constructor
        · rintro ⟨before, bad, after, rfl, hpasses, hsplits⟩
          refine ⟨opt :: before, bad, after, rfl, ?_, hsplits⟩
          rw [passes, harg, Option.any_some, ← hok, hpasses]
          rfl
        · rintro ⟨before, bad, after, heq, hpasses, hsplits⟩
          cases before with
          | nil =>
            cases heq
            exact absurd hsplits hhere
          | cons first before =>
            cases heq
            exact ⟨before, bad, after, rfl, (Bool.and_eq_true_iff.mp hpasses).2, hsplits⟩

theorem parseCommand_eq_none {net : NetParse} {args : List String} :
    parseCommand net args = none ↔
      ∃ before opt after, (splitOptAndCmd (args.drop 1)).options = before ++ opt :: after ∧
        passes net before (opt :: after) = true ∧ SplitsChar opt := by
  rw [parseCommand, Option.bind_eq_bind]
  dsimp only
  rw [Option.bind_eq_none_iff]
  constructor
  · intro h
    apply extractGlobalParamsLoop_eq_none.mp
    cases hloop : extractGlobalParams net (splitOptAndCmd (args.drop 1)).options with
    | none => exact hloop
    | some result =>
      have := h result hloop
      cases result <;> cases this
  · intro h result hresult
    rw [extractGlobalParams, extractGlobalParamsLoop_eq_none.mpr h] at hresult
    cases hresult

/-- No slice of the parser panics, and it returns, on every list of arguments in which no word
that the option loop comes to has a character across its second byte. -/
theorem parse_returns_iff (net : NetParse) (args : List String) :
    ((∀ arg, parseServerListenStringChecked net arg = some (parseServerListenString net arg)) ∧
        (parseCommand net args).isSome = true) ↔
      ∀ before opt after, (splitOptAndCmd (args.drop 1)).options = before ++ opt :: after →
        passes net before (opt :: after) = true → ¬ SplitsChar opt := by
  rw [and_iff_right (parseServerListenStringChecked_eq net), Option.isSome_iff_ne_none, Ne,
    parseCommand_eq_none]
  constructor
  · intro h before opt after hsplit hpasses hsplits
    exact h ⟨before, opt, after, hsplit, hpasses, hsplits⟩
  · rintro h ⟨before, opt, after, hsplit, hpasses, hsplits⟩
    exact h before opt after hsplit hpasses hsplits

/-- `hdc a€`: the euro sign starts at the second byte of three. -/
theorem parse_panics_euro :
    SplitsChar "a€" ∧ parseCommand noAddresses ["hdc", "a€"] = none := by
  decide

end Hdc
