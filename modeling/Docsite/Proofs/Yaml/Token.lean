/-
**Tokens that stay.**

A scalar can turn out to be a key, and then tokens are put in front of it. Nothing else changes what was
read: the tokens in front of all that may still be a key are the first ones to the end.

* `Scan.Keeps`: tokens that stay at the front.
* `Scan.Keeps.next`: the next token leaves them there.
* `Scan.Keeps.run`: so does a whole run.
-/

import Mathlib.Data.List.Infix
import Docsite.Proofs.List.Correspondence
import Docsite.Yaml.Token

namespace Docsite.Yaml.Scan

/-- The front of the tokens, in which nothing may still be a key. -/
structure Keeps (front : List Token) (scan : Scan) : Prop where
  isFront : front <+: scan.tokens.toList
  settled : ∀ key, some key ∈ scan.keys → front.length ≤ key.position

/-- What a run does in front of the next token: white space is skipped, what is too far back to be a key
is forgotten, and the blocks that end here are closed. -/
def ready? (scan : Scan) : Option Scan :=
  (dropStaleKeys? (skipSpace (scan.place.rest.length + 1) scan)).map fun scan =>
    closeBlocks (scan.place.column + 1) scan

section Keeping

variable {front : List Token} {scan next : Scan}

theorem run?_succ (fuel : Nat) (scan : Scan) :
    run? (fuel + 1) scan = (ready? scan).bind fun ready =>
      if ready.place.rest.isEmpty then startLine? ready else (next? ready).bind (run? fuel) := by
  rw [run?, ready?]
  cases dropStaleKeys? (skipSpace (scan.place.rest.length + 1) scan) <;> rfl

/-- **A run that succeeds takes a step,** and ends or goes on. -/
theorem exists_step {fuel : Nat} (runs : run? fuel scan = some next) :
    ∃ less ready, fuel = less + 1 ∧ ready? scan = some ready ∧
      ((ready.place.rest = [] ∧ startLine? ready = some next) ∨
        ∃ behind, ready.place.rest ≠ [] ∧ next? ready = some behind ∧ run? less behind = some next) := by
  cases fuel with
  | zero => cases runs
  | succ less =>
    rw [run?_succ, Option.bind_eq_some_iff] at runs
    obtain ⟨ready, isReady, goesOn⟩ := runs
    refine ⟨less, ready, rfl, isReady, ?_⟩
    split at goesOn
    · next ends => exact .inl ⟨List.isEmpty_iff.mp ends, goesOn⟩
    · next more =>
      obtain ⟨behind, reads, runs⟩ := Option.bind_eq_some_iff.mp goesOn
      exact .inr ⟨behind, by simpa using more, reads, runs⟩

theorem exists_next {ready : Scan} {fuel : Nat} (runs : run? fuel scan = some next)
    (isReady : ready? scan = some ready) (more : ready.place.rest ≠ []) :
    ∃ less behind, next? ready = some behind ∧ run? less behind = some next := by
  obtain ⟨less, other, -, isOther, goesOn⟩ := exists_step runs
  obtain rfl := Option.some.inj (isReady.symm.trans isOther)
  obtain ⟨ends, -⟩ | ⟨behind, -, reads, runsOn⟩ := goesOn
  · exact absurd ends more
  · exact ⟨less, behind, reads, runsOn⟩

/-! ## Changes of a scan -/

theorem Keeps.length_le (keeps : Keeps front scan) : front.length ≤ scan.tokens.size :=
  keeps.isFront.length_le

/-- Where nothing may be a key, all tokens stay. -/
theorem Keeps.of_no_key (isFront : front <+: scan.tokens.toList) (noKey : scan.keys = [none]) :
    Keeps front scan := by
  refine ⟨isFront, fun key member => ?_⟩
  rw [noKey, List.mem_singleton] at member
  cases member

/-- Only tokens and possible keys matter. -/
theorem Keeps.of_eq (keeps : Keeps front scan) (sameTokens : next.tokens = scan.tokens)
    (sameKeys : next.keys = scan.keys) : Keeps front next :=
  ⟨sameTokens ▸ keeps.isFront, sameKeys ▸ keeps.settled⟩

theorem Keeps.push (keeps : Keeps front scan) (token : Token) : Keeps front (scan.push token) := by
  refine ⟨?_, keeps.settled⟩
  rw [Scan.push, Array.toList_push]
  exact keeps.isFront.trans (List.prefix_append _ _)

/-- **A token is only put where nothing is settled yet.** -/
theorem Keeps.insert (keeps : Keeps front scan) {position : Nat} (behind : front.length ≤ position)
    (token : Token) : Keeps front (scan.insert position token) := by
  refine ⟨?_, keeps.settled⟩
  rw [Scan.insert, Array.toList_append, Array.toList_append, List.append_assoc, Array.toList_extract,
    List.extract_eq_take_drop, List.drop_zero, Nat.sub_zero]
  exact (List.prefix_take_iff.mpr ⟨keeps.isFront, behind⟩).trans (List.prefix_append _ _)

theorem Keeps.closeBlocks (keeps : Keeps front scan) (limit : Nat) :
    Keeps front (closeBlocks limit scan) := by
  unfold Scan.closeBlocks
  split
  · exact keeps
  · refine ⟨?_, keeps.settled⟩
    rw [Array.toList_append]
    exact keeps.isFront.trans (List.prefix_append _ _)

theorem Keeps.openBlock (keeps : Keeps front scan) {position : Nat}
    (behind : front.length ≤ position) (column : Nat) (token : Token) :
    Keeps front (scan.openBlock column position token) := by
  unfold Scan.openBlock
  split
  · exact keeps
  · exact (keeps.insert behind token).of_eq rfl rfl

/-- Keys of which some are forgotten. -/
theorem Keeps.forget (keeps : Keeps front scan) (sameTokens : next.tokens = scan.tokens)
    (fewer : ∀ key, some key ∈ next.keys → some key ∈ scan.keys) : Keeps front next :=
  ⟨sameTokens ▸ keeps.isFront, fun key member => keeps.settled key (fewer key member)⟩

theorem Keeps.dropKey (keeps : Keeps front scan) (drops : dropKey? scan = some next) :
    Keeps front next := by
  rw [dropKey?] at drops
  split at drops
  · next key outer isKeys =>
    split at drops
    · cases drops
    · obtain rfl := Option.some.inj drops
      refine keeps.forget rfl fun key member => ?_
      rw [isKeys]
      exact List.mem_cons_of_mem _ ((List.mem_cons.mp member).resolve_left nofun)
  · exact Option.some.inj drops ▸ keeps

/-- What may be a key now is behind all tokens. -/
theorem Keeps.saveKey (keeps : Keeps front scan) (saves : saveKey? scan = some next) :
    Keeps front next := by
  rw [saveKey?] at saves
  split at saves
  · exact Option.some.inj saves ▸ keeps
  · obtain ⟨dropped, drops, rfl⟩ := Option.map_eq_some_iff.mp saves
    have kept := keeps.dropKey drops
    refine ⟨kept.isFront, fun key member => ?_⟩
    rcases List.mem_cons.mp member with isNew | isOuter
    · obtain rfl := Option.some.inj isNew
      exact kept.length_le
    · exact kept.settled key (List.mem_of_mem_drop isOuter)

theorem Keeps.dropStaleKeys (keeps : Keeps front scan) (drops : dropStaleKeys? scan = some next) :
    Keeps front next := by
  obtain ⟨keys, reads, same⟩ := Option.bind_eq_some_iff.mp drops
  obtain rfl := Option.some.inj same
  refine keeps.forget rfl fun key member => ?_
  obtain ⟨old, isOld, stays⟩ := exists_of_mem_forall₂ (mapM_eq_some_iff.mp reads) member
  cases old with
  | none => cases stays
  | some old =>
    simp only at stays
    split at stays
    · split at stays <;> cases stays
    · exact Option.some.inj stays ▸ isOld

theorem Keeps.skipSpace (keeps : Keeps front scan) (fuel : Nat) :
    Keeps front (skipSpace fuel scan) := by
  induction fuel generalizing scan with
  | zero => exact keeps
  | succ fuel ih =>
    rw [Scan.skipSpace]
    split
    · exact ih (keeps.of_eq rfl rfl)
    · exact keeps.of_eq rfl rfl

theorem Keeps.ready (keeps : Keeps front scan) (isReady : ready? scan = some next) :
    Keeps front next := by
  obtain ⟨fresh, drops, rfl⟩ := Option.map_eq_some_iff.mp isReady
  exact ((keeps.skipSpace _).dropStaleKeys drops).closeBlocks _

theorem Keeps.startLine (keeps : Keeps front scan) (starts : startLine? scan = some next) :
    Keeps front next := by
  obtain ⟨dropped, drops, rfl⟩ := Option.map_eq_some_iff.mp starts
  exact ((keeps.closeBlocks 0).dropKey drops).of_eq rfl rfl

/-! ## Reading a token -/

theorem Keeps.documentMarker (keeps : Keeps front scan) {token : Token}
    (reads : documentMarker? scan token = some next) : Keeps front next := by
  obtain ⟨started, starts, rfl⟩ := Option.map_eq_some_iff.mp reads
  exact ((keeps.startLine starts).push token).of_eq rfl rfl

theorem Keeps.openFlow (keeps : Keeps front scan) {token : Token}
    (reads : openFlow? scan token = some next) : Keeps front next := by
  obtain ⟨saved, saves, rfl⟩ := Option.map_eq_some_iff.mp reads
  have pushed := (keeps.saveKey saves).push token
  refine ⟨pushed.isFront, fun key member => pushed.settled key ?_⟩
  exact (List.mem_cons.mp member).resolve_left nofun

theorem Keeps.closeFlow (keeps : Keeps front scan) {token : Token}
    (reads : closeFlow? scan token = some next) : Keeps front next := by
  obtain ⟨dropped, drops, rfl⟩ := Option.map_eq_some_iff.mp reads
  refine ((keeps.dropKey drops).push token).forget rfl fun key member => ?_
  show some key ∈ dropped.keys
  revert member
  show some key ∈ (if dropped.inFlow then dropped.keys.drop 1 else dropped.keys) → _
  split
  · exact List.mem_of_mem_drop
  · exact id

theorem Keeps.flowEntry (keeps : Keeps front scan) (reads : flowEntry? scan = some next) :
    Keeps front next := by
  obtain ⟨dropped, drops, rfl⟩ := Option.map_eq_some_iff.mp reads
  exact ((keeps.dropKey drops).push .flowEntry).of_eq rfl rfl

theorem Keeps.blockEntry (keeps : Keeps front scan) (reads : blockEntry? scan = some next) :
    Keeps front next := by
  obtain ⟨-, -, goesOn⟩ := Option.bind_eq_some_iff.mp reads
  obtain ⟨opened, drops, same⟩ := Option.bind_eq_some_iff.mp goesOn
  obtain rfl := Option.some.inj same
  exact (((keeps.openBlock keeps.length_le _ _).dropKey drops).push .blockEntry).of_eq rfl rfl

theorem Keeps.key (keeps : Keeps front scan) (reads : key? scan = some next) : Keeps front next := by
  obtain ⟨-, -, goesOn⟩ := Option.bind_eq_some_iff.mp reads
  obtain ⟨opened, drops, same⟩ := Option.bind_eq_some_iff.mp goesOn
  obtain rfl := Option.some.inj same
  exact (((keeps.openBlock keeps.length_le _ _).dropKey drops).push .key).of_eq rfl rfl

@[simp] theorem keys_openBlock (scan : Scan) (column position : Nat) (token : Token) :
    (scan.openBlock column position token).keys = scan.keys := by
  unfold Scan.openBlock
  split <;> rfl

/-- What turns out to be a key is marked where it stands. -/
theorem Keeps.value (keeps : Keeps front scan) (reads : value? scan = some next) :
    Keeps front next := by
  unfold value? at reads
  split at reads
  · next key outer isKeys =>
    obtain rfl := Option.some.inj reads
    have behind := keeps.settled key (isKeys ▸ List.mem_cons_self)
    have opened := (keeps.insert behind .key).openBlock behind key.column .blockMapStart
    refine (opened.push .value).forget rfl fun other member => ?_
    show some other ∈ ((scan.insert key.position .key).openBlock _ _ _).keys
    rw [keys_openBlock]
    exact isKeys ▸ List.mem_cons_of_mem _ ((List.mem_cons.mp member).resolve_left nofun)
  · split at reads
    · cases reads
    · obtain rfl := Option.some.inj reads
      exact ((keeps.openBlock keeps.length_le _ _).push .value).of_eq rfl rfl

theorem Keeps.word (keeps : Keeps front scan) {read : Option (Token × Place)}
    (reads : scan.word? read = some next) : Keeps front next := by
  simp only [word?, Option.bind_eq_bind, Option.bind_eq_some_iff, Option.pure_def] at reads
  obtain ⟨saved, saves, ⟨token, behind⟩, -, same⟩ := reads
  obtain rfl := Option.some.inj same
  exact ((keeps.saveKey saves).push token).of_eq rfl rfl

theorem Keeps.plain (keeps : Keeps front scan) (reads : plain? scan = some next) :
    Keeps front next := by
  simp only [plain?, Option.bind_eq_bind, Option.bind_eq_some_iff, Option.pure_def] at reads
  obtain ⟨saved, saves, ⟨text, behind, crossed⟩, -, same⟩ := reads
  obtain rfl := Option.some.inj same
  exact ((keeps.saveKey saves).push (.scalar .plain text)).of_eq rfl rfl

theorem Keeps.block (keeps : Keeps front scan) {folded : Bool}
    (reads : block? scan folded = some next) : Keeps front next := by
  simp only [block?, Option.bind_eq_bind, Option.bind_eq_some_iff, Option.pure_def] at reads
  obtain ⟨dropped, drops, ⟨text, behind⟩, -, same⟩ := reads
  obtain rfl := Option.some.inj same
  exact ((keeps.dropKey drops).push _).of_eq rfl rfl

theorem Keeps.directive (keeps : Keeps front scan)
    (reads : (do
      let started ← startLine? scan
      let (token, behind) ← directive? scan.place
      return (started.push token).goTo behind) = some next) : Keeps front next := by
  simp only [Option.bind_eq_bind, Option.bind_eq_some_iff, Option.pure_def] at reads
  obtain ⟨started, starts, ⟨token, behind⟩, -, same⟩ := reads
  obtain rfl := Option.some.inj same
  exact ((keeps.startLine starts).push token).of_eq rfl rfl

/-- Whatever is chosen, one of two ways was taken. -/
theorem of_ite {α : Type} {p goal : Prop} [Decidable p] {yes no result : α}
    (chosen : (if p then yes else no) = result) (ofYes : yes = result → goal)
    (ofNo : no = result → goal) : goal := by
  split at chosen
  · exact ofYes chosen
  · exact ofNo chosen

/-- **The next token leaves the settled ones where they are.** -/
theorem Keeps.token (keeps : Keeps front scan) (reads : next? scan = some next) :
    Keeps front next := by
  dsimp only [next?] at reads
  cases here : scan.place.rest with
  | nil =>
    rw [here] at reads
    exact Option.some.inj reads ▸ keeps
  | cons c rest =>
    rw [here] at reads
    -- One line for each kind of token, in the order in which they are told apart.
    refine of_ite reads keeps.directive fun reads => ?_
    refine of_ite reads keeps.documentMarker fun reads => ?_
    refine of_ite reads keeps.documentMarker fun reads => ?_
    refine of_ite reads keeps.openFlow fun reads => ?_
    refine of_ite reads keeps.openFlow fun reads => ?_
    refine of_ite reads keeps.closeFlow fun reads => ?_
    refine of_ite reads keeps.closeFlow fun reads => ?_
    refine of_ite reads keeps.flowEntry fun reads => ?_
    refine of_ite reads keeps.blockEntry fun reads => ?_
    refine of_ite reads keeps.key fun reads => ?_
    refine of_ite reads keeps.value fun reads => ?_
    refine of_ite reads keeps.word fun reads => ?_
    refine of_ite reads keeps.word fun reads => ?_
    refine of_ite reads keeps.word fun reads => ?_
    refine of_ite reads keeps.block fun reads => ?_
    refine of_ite reads keeps.block fun reads => ?_
    refine of_ite reads keeps.word fun reads => ?_
    refine of_ite reads keeps.word fun reads => ?_
    exact of_ite reads keeps.plain nofun

/-- **A whole run leaves the settled tokens at the front.** -/
theorem Keeps.run {fuel : Nat} (keeps : Keeps front scan) (runs : run? fuel scan = some next) :
    front <+: next.tokens.toList := by
  induction fuel generalizing scan with
  | zero => cases runs
  | succ fuel ih =>
    obtain ⟨less, ready, same, isReady, goesOn⟩ := exists_step runs
    obtain rfl := Nat.succ.inj same
    have kept := keeps.ready isReady
    rcases goesOn with ⟨-, ends⟩ | ⟨behind, -, reads, runs⟩
    · exact (kept.startLine ends).isFront
    · exact ih (kept.token reads) runs

end Keeping

end Docsite.Yaml.Scan
