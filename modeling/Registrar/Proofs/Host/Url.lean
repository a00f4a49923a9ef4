import Registrar.Host.Url
import Registrar.Proofs.Text.Split

/-!
# The server of an address

Reading an address finds the scheme and the server in the characters that count (`map_origin_parse?`). Behind a letter
or a digit a slash ends the server at the latest, so what stands behind this slash changes neither the server nor
whether there is one (`map_origin_parse?_append`).
-/

namespace Registrar.Url

/-! ## The characters that count -/

/-- The characters that stay inside an address. -/
def isKept (c : Char) : Bool := c ≠ '\t' && c ≠ '\n' && c ≠ '\r'

/-- The characters of an address that count. -/
def settled (cs : List Char) : List Char := ((cs.dropWhile isEdge).reverse.dropWhile isEdge).reverse.filter isKept

/-- The characters that a name in an address is made of are not edges, slashes or colons, and they count. -/
theorem of_isAlphanum {c : Char} (hc : c.isAlphanum) :
    isEdge c = false ∧ isSlash c = false ∧ c ≠ ':' ∧ isKept c = true := by
  have hne (x : Char) (hx : x.isAlphanum = false) : c ≠ x := fun h => by simp [← h, hc] at hx
  have hedge : ¬ c ≤ ' ' := by
    intro hle
    have hnone : ∀ n < 33, (Char.ofNat n).isAlphanum = false := by decide
    have hc' := hnone c.toNat (Nat.lt_succ_of_le hle)
    rw [Char.ofNat_toNat, hc] at hc'
    cases hc'
  refine ⟨decide_eq_false hedge, ?_, hne ':' (by decide), ?_⟩
  · simp [isSlash, hne '/' (by decide), hne '\\' (by decide)]
  · simp [isKept, hne '\t' (by decide), hne '\n' (by decide), hne '\r' (by decide)]

theorem dropWhile_append_cons {p : Char → Bool} {c : Char} (hc : p c = false) (front rest : List Char) :
    (front ++ c :: rest).dropWhile p = front.dropWhile p ++ c :: rest := by
  induction front with
  | nil => exact List.dropWhile_cons_of_neg (by simp [hc])
  | cons a front ih =>
    rw [List.cons_append, List.dropWhile_cons, List.dropWhile_cons]
    split
    · exact ih
    · rfl

theorem takeWhile_append_cons {p : Char → Bool} {c : Char} (hc : p c = false) (front rest : List Char) :
    (front ++ c :: rest).takeWhile p = front.takeWhile p := by
  induction front with
  | nil => exact List.takeWhile_cons_of_neg (by simp [hc])
  | cons a front ih => rw [List.cons_append, List.takeWhile_cons, List.takeWhile_cons, ih]

/-- Nothing behind a name and a slash decides which of the characters in front of them count. -/
theorem settled_append {c : Char} (hc : c.isAlphanum) (front rest : List Char) : ∃ rest',
    settled (front ++ c :: '/' :: rest) = (front.dropWhile isEdge).filter isKept ++ c :: '/' :: rest' := by
  obtain ⟨hedge, -, -, hkept⟩ := of_isAlphanum hc
  refine ⟨(rest.reverse.dropWhile isEdge).reverse.filter isKept, ?_⟩
  rw [settled, dropWhile_append_cons hedge]
  -- the slash is the first from the end that is surely no edge
  have hreverse (l : List Char) : (l ++ c :: '/' :: rest).reverse = rest.reverse ++ '/' :: c :: l.reverse := by simp
  rw [hreverse, dropWhile_append_cons (by decide)]
  simp [hkept, show isKept '/' = true by decide]

/-! ## The server -/

/-- The characters that end the server. -/
def endsServer (c : Char) : Bool := isSlash c || c = '?' || c = '#'

/-- The server behind a scheme. -/
def server (rest : List Char) : List Char := (rest.dropWhile isSlash).takeWhile fun c => !endsServer c

/-- The scheme and the server in characters that count. -/
def origin? (cs : List Char) : Option String := do
  let (scheme, rest) ← Text.cutFirst ':' cs
  let scheme := (String.ofList scheme).toLower
  if scheme ≠ "http" && scheme ≠ "https" then none
  if (server rest).isEmpty then none
  return scheme ++ "://" ++ String.ofList (server rest)

theorem map_origin_parse? (text : String) : (parse? text).map origin = origin? (settled text.toList) := by
  show Option.map origin (Option.bind (Text.cutFirst ':' (settled text.toList)) _) = Option.bind _ _
  cases Text.cutFirst ':' (settled text.toList) with
  | none => rfl
  | some parts =>
    simp only [Option.bind_some]
    split
    · rfl
    · show Option.map origin (if (server parts.2).isEmpty = true then none else _) = _
      split
      · rfl
      · rfl

theorem server_append {c : Char} (hc : c.isAlphanum) (front rest rest' : List Char) :
    server (front ++ c :: '/' :: rest) = server (front ++ c :: '/' :: rest') := by
  obtain ⟨-, hslash, -⟩ := of_isAlphanum hc
  have hto : ∀ rest, server (front ++ c :: '/' :: rest) =
      (front.dropWhile isSlash ++ [c]).takeWhile fun c => !endsServer c := by
    intro rest
    rw [server, dropWhile_append_cons hslash, List.append_cons]
    exact takeWhile_append_cons rfl _ _
  rw [hto, hto]

/-- A scheme holds no slash. -/
theorem not_isWeb {cs : List Char} (h : '/' ∈ cs) :
    ((String.ofList cs).toLower ≠ "http" && (String.ofList cs).toLower ≠ "https") = true := by
  have hslash : '/' ∈ (String.ofList cs).toLower.toList := by
    show '/' ∈ ((String.ofList cs).map Char.toLower).toList
    rw [String.toList_map, String.toList_ofList]
    exact List.mem_map.2 ⟨'/', h, by decide⟩
  have hne (s : String) (hs : '/' ∉ s.toList) : (String.ofList cs).toLower ≠ s := fun h => hs (h ▸ hslash)
  simp [hne "http" (by decide), hne "https" (by decide)]

theorem origin?_append {c : Char} (hc : c.isAlphanum) (front rest rest' : List Char) :
    origin? (front ++ c :: '/' :: rest) = origin? (front ++ c :: '/' :: rest') := by
  have hcolon := (of_isAlphanum hc).2.2.1
  by_cases hfront : ':' ∈ front
  · obtain ⟨scheme, back, rfl, hscheme⟩ := List.eq_append_cons_of_mem hfront
    have hcut (rest : List Char) : Text.cutFirst ':' (scheme ++ ':' :: back ++ c :: '/' :: rest) =
        some (scheme, back ++ c :: '/' :: rest) :=
      Text.cutFirst_eq_some_iff.2 ⟨List.append_assoc .., hscheme⟩
    simp only [origin?, hcut, Option.bind_eq_bind, Option.bind_some, server_append hc back rest rest']
  · have hnone (rest : List Char) : origin? (front ++ c :: '/' :: rest) = none := by
      have hnot : ':' ∉ front ++ [c, '/'] := by simp [hfront, hcolon.symm]
      rw [origin?, show front ++ c :: '/' :: rest = front ++ [c, '/'] ++ rest by simp, Text.cutFirst_append hnot]
      cases Text.cutFirst ':' rest with
      | none => rfl
      | some parts => exact if_pos (not_isWeb (by simp))
    rw [hnone, hnone]

theorem map_origin_parse?_append {c : Char} (hc : c.isAlphanum) (front rest rest' : List Char) :
    (parse? (String.ofList (front ++ c :: '/' :: rest))).map origin =
      (parse? (String.ofList (front ++ c :: '/' :: rest'))).map origin := by
  obtain ⟨back, hback⟩ := settled_append hc front rest
  obtain ⟨back', hback'⟩ := settled_append hc front rest'
  rw [map_origin_parse?, map_origin_parse?, String.toList_ofList, String.toList_ofList, hback, hback']
  exact origin?_append hc _ _ _

end Registrar.Url
