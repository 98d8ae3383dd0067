/-
**What the authority of a URL names.**

The scheme, the host and the port of a URL of the web are settled by its scheme and its authority
alone, and no authority ends in a control character or white space.

* `AuthorityNames`: the host and the port that an authority names.
* `parse_web_iff`: a text is read as a URL of the web exactly if its authority names something.
* `AuthorityNames.not_concat`: what no authority ends in.
-/

import Mathlib.Data.List.TakeWhile
import Docsite.Proofs.Url.Host

namespace Docsite.Url

/-! ## Authorities -/

/-- The authority in a text behind a scheme of the web. -/
def authorityOf (input : List Char) : List Char :=
  (input.dropWhile isEitherSlash).takeWhile (!endsAuthority .web ·)

/-- What stands in front of the last `@` of an authority. -/
def credentialsOf (authority : List Char) : List Char :=
  ((cutLast? '@' authority).getD ([], authority)).1

/-- What stands behind the last `@` of an authority. -/
def placeOf (authority : List Char) : List Char :=
  ((cutLast? '@' authority).getD ([], authority)).2

/-- What stands behind the colon that ends the host of an authority. -/
def portOf (authority : List Char) : List Char :=
  ((placeOf authority).drop (hostLength false (placeOf authority))).drop 1

/-- The host and the port that an authority names. -/
structure AuthorityNames (scheme : String) (authority : List Char) (host : Option Host)
    (port : Option Nat) : Prop where
  host : readHost .web (!(credentialsOf authority).isEmpty && credentialsOf authority != [':'])
    (placeOf authority) = .ok host
  port : readPort scheme ((portOf authority).takeWhile (· != '\\')) = .ok port

theorem readHost_nil (hasCredentials : Bool) (host : Option Host) :
    readHost .web hasCredentials [] ≠ .ok host := by
  intro read
  cases hasCredentials <;> cases read

/-- **An authority is read as what it names.** -/
theorem readAuthority_web {scheme : String} {input : List Char} {host : Option Host}
    {port : Option Nat} :
    (∃ path, readAuthority .web scheme input = .ok { scheme, host, port, path }) ↔
      AuthorityNames scheme (input.takeWhile (!endsAuthority .web ·)) host port := by
  unfold readAuthority
  simp only [bind, Except.bind]
  constructor
  · rintro ⟨path, read⟩
    split at read
    · cases read
    · split at read
      · cases read
      · next isHost =>
        split at read
        · cases read
        · next isPort =>
          cases read
          exact ⟨isHost, isPort⟩
  · rintro ⟨isHost, isPort⟩
    have place : placeOf (input.takeWhile (!endsAuthority .web ·)) ≠ [] := by
      intro empty
      rw [empty] at isHost
      exact readHost_nil _ _ isHost
    have notAlone : (placeOf (input.takeWhile (!endsAuthority .web ·))).isEmpty = false := by
      simpa using place
    unfold portOf placeOf credentialsOf at *
    simp only [notAlone, isHost, isPort, Bool.and_false, Bool.false_and, Bool.false_eq_true,
      if_false]
    exact ⟨_, rfl⟩

/-! ## URLs of the web -/

theorem readAuthority_scheme {kind : SchemeKind} {scheme : String} {input : List Char} {url : Url}
    (read : readAuthority kind scheme input = .ok url) : url.scheme = scheme := by
  unfold readAuthority at read
  simp only [bind, Except.bind] at read
  split at read
  · cases read
  · split at read
    · cases read
    · split at read
      · cases read
      · cases read
        rfl

theorem readFile_scheme {input : List Char} {url : Url} (read : readFile none input = .ok url) :
    url.scheme = "file" := by
  unfold readFile readFile.fromRoot at read
  dsimp only at read
  repeat' split at read
  all_goals cases read
  all_goals rfl

theorem readOther_scheme {scheme : String} {input : List Char} {url : Url}
    (read : readOther scheme input = .ok url) : url.scheme = scheme := by
  unfold readOther at read
  split at read
  · exact readAuthority_scheme read
  · cases read
    rfl
  · cases read
    rfl

/-- A URL that is read by itself has the scheme that it is written with. -/
theorem readWithScheme_scheme {scheme : String} {input : List Char} {url : Url}
    (read : readWithScheme none scheme input = .ok url) : url.scheme = scheme := by
  unfold readWithScheme at read
  split at read
  · next isFile =>
    have same : scheme = "file" := by
      by_contra notFile
      unfold SchemeKind.of at isFile
      split at isFile
      · cases isFile
      · cases isFile
    rw [same]
    exact readFile_scheme read
  · exact readOther_scheme read
  · exact readAuthority_scheme read

theorem parse_eq (text : String) :
    parse text = match cutScheme? (significant text.toList) with
      | some (scheme, rest) => readWithScheme none scheme rest
      | none => .error .relativeWithoutBase := by
  unfold parse Url.read
  dsimp only
  cases cutScheme? (significant text.toList) <;> rfl

/-- **A text is read as a URL of the web exactly if its authority names something.** -/
theorem parse_web_iff {text scheme : String} (web : SchemeKind.of scheme = .web)
    {host : Option Host} {port : Option Nat} :
    (∃ path, parse text = .ok { scheme, host, port, path }) ↔
      ∃ rest, cutScheme? (significant text.toList) = some (scheme, rest) ∧
        AuthorityNames scheme (authorityOf rest) host port := by
  have behindSlashes (rest : List Char) :
      rest.drop (rest.takeWhile isEitherSlash).length = rest.dropWhile isEitherSlash := by
    have split : (rest.takeWhile isEitherSlash ++ rest.dropWhile isEitherSlash).drop
        (rest.takeWhile isEitherSlash).length = rest.dropWhile isEitherSlash := List.drop_left
    rwa [List.takeWhile_append_dropWhile] at split
  have readBehind (rest : List Char) : readWithScheme none scheme rest =
      readAuthority .web scheme (rest.dropWhile isEitherSlash) := by
    rw [readWithScheme, web, ← behindSlashes]
  constructor
  · rintro ⟨path, parsed⟩
    rw [parse_eq] at parsed
    match cut : cutScheme? (significant text.toList) with
    | none =>
      rw [cut] at parsed
      cases parsed
    | some (other, rest) =>
      rw [cut] at parsed
      dsimp only at parsed
      obtain rfl : scheme = other := readWithScheme_scheme parsed
      rw [readBehind] at parsed
      exact ⟨rest, rfl, readAuthority_web.mp ⟨path, parsed⟩⟩
  · rintro ⟨rest, cut, names⟩
    obtain ⟨path, read⟩ := readAuthority_web.mpr names
    refine ⟨path, ?_⟩
    rw [parse_eq, cut]
    dsimp only
    rw [readBehind, read]

/-! ## Ends of authorities -/

/-- The host of a place is followed by nothing or by a colon. -/
theorem hostLength_split (inBrackets : Bool) (place : List Char) :
    hostLength inBrackets place = place.length ∨
      ∃ front behind, place = front ++ ':' :: behind ∧
        hostLength inBrackets place = front.length := by
  induction place generalizing inBrackets with
  | nil => exact .inl rfl
  | cons c place ih =>
    rw [hostLength]
    split
    · next colon =>
      have isColon : c = ':' := by
        simp only [Bool.and_eq_true, beq_iff_eq] at colon
        exact colon.1
      exact .inr ⟨[], place, by rw [isColon]; rfl, rfl⟩
    · rcases ih _ with whole | ⟨front, behind, shape, length⟩
      · exact .inl (by rw [whole, List.length_cons])
      · exact .inr ⟨c :: front, behind, by rw [shape]; rfl, by rw [length, List.length_cons]⟩

/-- What stands behind a mark ends as the whole text does. -/
theorem placeOf_concat {c : Char} (noMark : c ≠ '@') (cs : List Char) :
    ∃ place, placeOf (cs ++ [c]) = place ++ [c] ∧ place ⊆ cs := by
  have keeps : (c != '@') = true := bne_iff_ne.mpr noMark
  have behind : ((cs ++ [c]).reverse.takeWhile (· != '@')).reverse =
      (cs.reverse.takeWhile (· != '@')).reverse ++ [c] := by
    rw [List.reverse_append, List.reverse_singleton, List.singleton_append, List.takeWhile_cons,
      if_pos keeps, List.reverse_cons]
  rw [placeOf, cutLast?, behind]
  split
  · refine ⟨_, rfl, fun d member => ?_⟩
    exact List.mem_reverse.mp (List.takeWhile_subset _ (List.mem_reverse.mp member))
  · exact ⟨cs, rfl, List.Subset.refl cs⟩

/-- The host that a place names is the one of the characters in front of its port. -/
theorem readHost_web {hasCredentials : Bool} {place : List Char} {host : Option Host}
    (read : readHost .web hasCredentials place = .ok host) :
    ∃ name, webHost (place.take (hostLength false place)) = .ok name ∧ host = some name := by
  unfold readHost at read
  dsimp only at read
  split at read
  · cases ‹SchemeKind.web = SchemeKind.other›
  · cases read
  · cases ‹SchemeKind.web = SchemeKind.other›
  · match named : webHost (place.take (hostLength false place)) with
    | .ok name =>
      rw [named] at read
      cases read
      exact ⟨name, rfl, rfl⟩
    | .error error =>
      rw [named] at read
      cases read

/-- **No authority that names something ends in a control character or white space.** -/
theorem AuthorityNames.not_concat {scheme : String} {cs : List Char} {c : Char}
    {host : Option Host} {port : Option Nat} (filler : IsFiller c)
    (noSlash : ∀ d ∈ cs ++ [c], d ≠ '\\') :
    ¬ AuthorityNames scheme (cs ++ [c]) host port := by
  rintro ⟨isHost, isPort⟩
  have noMark : c ≠ '@' := filler.ne (by decide)
  obtain ⟨place, isPlace, within⟩ := placeOf_concat noMark cs
  rw [portOf, isPlace] at isPort
  rw [isPlace] at isHost
  rcases hostLength_split false (place ++ [c]) with whole | ⟨front, behind, shape, length⟩
  · obtain ⟨name, named, -⟩ := readHost_web isHost
    rw [whole, List.take_length] at named
    exact webHost_concat filler place name named
  · -- The colon is not the last character, so the port ends as the place does.
    have noColon : c ≠ ':' := filler.ne (by decide)
    rcases List.eq_nil_or_concat behind with rfl | ⟨digits, last, rfl⟩
    · have ends := congrArg List.getLast? shape
      rw [List.getLast?_concat, List.getLast?_concat] at ends
      exact noColon (Option.some.inj ends)
    · have ends := congrArg List.getLast? shape
      rw [List.concat_eq_append, ← List.cons_append, ← List.append_assoc, List.getLast?_concat,
        List.getLast?_concat] at ends
      obtain rfl := Option.some.inj ends
      have isPort' : (place ++ [c]).drop front.length = ':' :: (digits ++ [c]) := by
        rw [shape, List.concat_eq_append, List.drop_left]
      have noSlashes : ∀ d ∈ digits ++ [c], (d != '\\') = true := by
        intro d member
        have inPlace : d ∈ place ++ [c] := by
          rw [shape, List.concat_eq_append]
          exact List.mem_append_right _ (List.mem_cons_of_mem _ member)
        have inAuthority : d ∈ cs ++ [c] :=
          List.append_subset.mpr ⟨List.Subset.trans within (List.subset_append_left _ _),
            List.subset_append_right _ _⟩ inPlace
        exact bne_iff_ne.mpr (noSlash d inAuthority)
      rw [length, isPort', List.drop_one, List.tail_cons,
        List.takeWhile_eq_self_iff.mpr noSlashes] at isPort
      exact readPort_concat filler scheme digits port isPort

end Docsite.Url
