import CloudSteward.Rest.Client

/-!
# Reading a query

Whoever receives a query cuts it at each `&`, each pair at its first `=`, and decodes name and
value. The pairs that a client has written are read back, whatever characters they consist of.
All that this needs of the escaping is that what it writes for a byte stands for the byte.

An address has its query behind its first `?`, and what is behind a `#` is not sent. Neither of
them comes from a name or value, so that the parameters of a request arrive at every address that
has none of them itself, and at no other.

Results:

* `decoded?_writtenBy`: a text is read back from what an escaping writes for it.
* `pairs?_queryBy`, `pairs?_query`: the pairs of a query are read back.
* `isQueryChar_of_mem_query`: the characters of which a query consists.
* `parameters?_query_iff`: the addresses at which parameters arrive.
-/

namespace CloudSteward.Text

/-! ## Reading -/

/-- The text that percent-decoding gives, if its bytes are one in UTF-8. -/
def decoded? (cs : List Char) : Option String := do
  String.fromUTF8? (← decodeBytes cs).toByteArray

/-- Reads a name and a value with `=` between them. -/
def pair? (part : List Char) : Option (String × String) :=
  match part.dropWhile (· ≠ '=') with
  | [] => none
  | _ :: value => do return (← decoded? (part.takeWhile (· ≠ '=')), ← decoded? value)

/-- Reads the pairs of a query. -/
def pairs? (q : String) : Option (List (String × String)) :=
  (cut '&' q.toList).mapM pair?

/-- The query of an address: what stands behind its first question mark, and before the number
    sign from which on an address is not sent. -/
def queryOf? (url : String) : Option String :=
  match (url.toList.takeWhile (· ≠ '#')).dropWhile (· ≠ '?') with
  | [] => none
  | _ :: q => some (String.ofList q)

/-- Reads the parameters that arrive with an address. -/
def parameters? (url : String) : Option (List (String × String)) := do
  pairs? (← queryOf? url)

/-! ## Writing -/

/-- A text as an escaping writes it, byte for byte. -/
def writtenBy (escape : UInt8 → List Char) (s : String) : List Char :=
  (bytesOf s).flatMap escape

/-- A pair as an escaping writes it in a query. -/
def written (escape : UInt8 → List Char) (p : String × String) : List Char :=
  writtenBy escape p.1 ++ '=' :: writtenBy escape p.2

/-- The query that an escaping gives. -/
def queryBy (escape : UInt8 → List Char) (pairs : List (String × String)) : String :=
  String.ofList (join '&' (pairs.map (written escape)))

theorem queryBy_encodeByte (pairs : List (String × String)) :
    queryBy encodeByte pairs = query pairs := rfl

/-- Whether a character may occur in a query. -/
def isQueryChar (c : Char) : Bool :=
  isPlain c || c == '&' || c == '='

section Escaping

variable {escape : UInt8 → List Char}

theorem decodeBytes_flatMap (h : ∀ b, StandsFor (escape b) b) (bs : List UInt8) :
    decodeBytes (bs.flatMap escape) = some bs := by
  induction bs with
  | nil => rfl
  | cons b bs ih =>
    rw [List.flatMap_cons, (h b).decodeBytes_append, ih]
    rfl

theorem toByteArray_bytesOf (s : String) : (bytesOf s).toByteArray = s.toByteArray :=
  String.utf8Encode_toList

/-- A text is read back from what is written for it. -/
theorem decoded?_writtenBy (h : ∀ b, StandsFor (escape b) b) (s : String) :
    decoded? (writtenBy escape s) = some s := by
  rw [decoded?, writtenBy, decodeBytes_flatMap h]
  show String.fromUTF8? (bytesOf s).toByteArray = some s
  rw [toByteArray_bytesOf, String.fromUTF8?, dif_pos s.isValidUTF8]
  rfl

theorem isPlain_of_mem_writtenBy (h : ∀ b, StandsFor (escape b) b) {s : String} {c : Char}
    (hc : c ∈ writtenBy escape s) : isPlain c = true := by
  obtain ⟨b, -, hb⟩ := List.mem_flatMap.mp hc
  exact (h b).plain c hb

/-- No separator comes from a name or value. -/
theorem notMem_writtenBy (h : ∀ b, StandsFor (escape b) b) {c : Char} (hc : isPlain c = false)
    (s : String) : c ∉ writtenBy escape s := by
  intro hmem
  rw [isPlain_of_mem_writtenBy h hmem] at hc
  cases hc

theorem amp_notMem_written (h : ∀ b, StandsFor (escape b) b) (p : String × String) :
    '&' ∉ written escape p := by
  have hamp : isPlain '&' = false := by decide
  simp only [written, List.mem_append, List.mem_cons, not_or]
  exact ⟨notMem_writtenBy h hamp _, by decide, notMem_writtenBy h hamp _⟩

/-- A pair is read back: its name has no `=`, so that the first one is the one between. -/
theorem pair?_written (h : ∀ b, StandsFor (escape b) b) (p : String × String) :
    pair? (written escape p) = some p := by
  have heq : '=' ∉ writtenBy escape p.1 := notMem_writtenBy h (by decide) p.1
  have hname : ∀ c ∈ writtenBy escape p.1, decide (c ≠ '=') = true := fun c hc =>
    decide_eq_true fun hsep => heq (hsep ▸ hc)
  rw [pair?, written, List.dropWhile_append_of_pos hname, List.takeWhile_append_of_pos hname]
  simp [decoded?_writtenBy h]

/-- **Round trip.** The pairs that a query is written from are read back, by whatever escaping
    it is written. -/
theorem pairs?_queryBy (h : ∀ b, StandsFor (escape b) b) {pairs : List (String × String)}
    (hpairs : pairs ≠ []) : pairs? (queryBy escape pairs) = some pairs := by
  have hcut : cut '&' (join '&' (pairs.map (written escape))) = pairs.map (written escape) := by
    refine cut_join (by simpa using hpairs) fun part hpart => ?_
    obtain ⟨p, -, rfl⟩ := List.mem_map.mp hpart
    exact amp_notMem_written h p
  have hread : ∀ l : List (String × String), (l.map (written escape)).mapM pair? = some l := by
    intro l
    induction l with
    | nil => rfl
    | cons p l ih => simp [List.mapM_cons, pair?_written h, ih]
  rw [pairs?, queryBy, String.toList_ofList, hcut, hread]

/-- A query consists of names and values as they are written, and of separators. -/
theorem isQueryChar_of_mem_queryBy (h : ∀ b, StandsFor (escape b) b)
    {pairs : List (String × String)} {c : Char} (hc : c ∈ (queryBy escape pairs).toList) :
    isQueryChar c = true := by
  rw [queryBy, String.toList_ofList] at hc
  rw [isQueryChar, Bool.or_eq_true, Bool.or_eq_true, beq_iff_eq, beq_iff_eq]
  rcases mem_join hc with rfl | ⟨part, hpart, hc⟩
  · exact .inl (.inr rfl)
  · obtain ⟨p, -, rfl⟩ := List.mem_map.mp hpart
    rw [written, List.mem_append, List.mem_cons] at hc
    rcases hc with hc | hc | hc
    · exact .inl (.inl (isPlain_of_mem_writtenBy h hc))
    · exact .inr hc
    · exact .inl (.inl (isPlain_of_mem_writtenBy h hc))

end Escaping

theorem pairs?_query {pairs : List (String × String)} (h : pairs ≠ []) :
    pairs? (query pairs) = some pairs := by
  rw [← queryBy_encodeByte]
  exact pairs?_queryBy standsFor_encodeByte h

theorem isQueryChar_of_mem_query {pairs : List (String × String)} {c : Char}
    (hc : c ∈ (query pairs).toList) : isQueryChar c = true := by
  rw [← queryBy_encodeByte] at hc
  exact isQueryChar_of_mem_queryBy standsFor_encodeByte hc

/-! ## Arriving -/

section Arriving

variable {address : String} {pairs : List (String × String)}

theorem mark_notMem_query : '#' ∉ (query pairs).toList := by
  intro hc
  have hmark : isQueryChar '#' = false := by decide
  rw [isQueryChar_of_mem_query hc] at hmark
  cases hmark

/-- The query of an address that is sent to its end. -/
theorem queryOf?_eq {url : String} {front rest : List Char}
    (hurl : url.toList = front ++ '?' :: rest) (hfront : '?' ∉ front) (hmark : '#' ∉ url.toList) :
    queryOf? url = some (String.ofList rest) := by
  have hkept : (url.toList ++ []).takeWhile (· ≠ '#') = url.toList ++ [] :=
    List.takeWhile_append_of_pos fun c hc => decide_eq_true fun h => hmark (h ▸ hc)
  rw [List.append_nil] at hkept
  have hdropped : ∀ c ∈ front, decide (c ≠ '?') = true := by
    intro c hc
    exact decide_eq_true fun h => hfront (h ▸ hc)
  rw [queryOf?, hkept, hurl, List.dropWhile_append_of_pos hdropped]
  rfl

/-- What stands behind a number sign plays no part. -/
theorem queryOf?_of_mark (hmark : '#' ∈ address.toList) (behind : String) :
    queryOf? (address ++ behind) = queryOf? address := by
  obtain ⟨front, rest, haddress, hfront⟩ := List.eq_append_cons_of_mem hmark
  have hkept : ∀ l : List Char, (front ++ '#' :: l).takeWhile (· ≠ '#') = front := by
    intro l
    have hsent : ∀ c ∈ front, decide (c ≠ '#') = true := fun c hc =>
      decide_eq_true fun h => hfront (h ▸ hc)
    rw [List.takeWhile_append_of_pos hsent]
    simp
  rw [queryOf?, queryOf?, String.toList_append, haddress, List.append_assoc, List.cons_append,
    hkept, hkept]

/-- An address without a number sign has none with a query behind it. -/
theorem mark_notMem_url (haddress : '#' ∉ address.toList) :
    '#' ∉ (address ++ "?" ++ query pairs).toList := by
  rw [String.toList_append, String.toList_append, List.mem_append, List.mem_append]
  rintro ((h | h) | h)
  · exact haddress h
  · simp at h
  · exact mark_notMem_query h

theorem parameters?_query (haddress : '?' ∉ address.toList ∧ '#' ∉ address.toList)
    (hpairs : pairs ≠ []) : parameters? (address ++ "?" ++ query pairs) = some pairs := by
  have hurl : (address ++ "?" ++ query pairs).toList =
      address.toList ++ '?' :: (query pairs).toList := by simp
  rw [parameters?, queryOf?_eq hurl haddress.1 (mark_notMem_url haddress.2), String.ofList_toList]
  exact pairs?_query hpairs

/-! ### Addresses with marks of their own -/

theorem eq_nil_of_decoded? {cs : List Char} (h : decoded? cs = some "") : cs = [] := by
  obtain ⟨bs, hbs, htext⟩ := Option.bind_eq_some_iff.mp h
  have hnil : bs = [] := by
    rw [String.fromUTF8?] at htext
    split at htext
    · have hbytes : bs.toByteArray = "".toByteArray :=
        congrArg String.toByteArray (Option.some.inj htext)
      simpa using hbytes
    · cases htext
  rw [decodeBytes.eq_def, hnil] at hbs
  split at hbs
  · rfl
  · split at hbs <;> simp at hbs
  · split at hbs <;> simp at hbs

/-- A pair of nothing is written with nothing but the `=` between. -/
theorem length_of_pair? {part : List Char} (h : pair? part = some ("", "")) :
    part.length = 1 := by
  rw [pair?] at h
  split at h
  · cases h
  · rename_i c value hdrop
    obtain ⟨name, hname, hrest⟩ := Option.bind_eq_some_iff.mp h
    obtain ⟨text, htext, hpair⟩ := Option.bind_eq_some_iff.mp hrest
    cases hpair
    have hfront : part.takeWhile (· ≠ '=') = [] := eq_nil_of_decoded? hname
    have hvalue : value = [] := eq_nil_of_decoded? htext
    have hpart := List.takeWhile_append_dropWhile (p := (· ≠ '=')) (l := part)
    rw [hfront, hdrop, hvalue] at hpart
    rw [← hpart]
    rfl

/-- A query with a single pair is that pair as it is written. -/
theorem pair?_of_pairs? {q : String} {p : String × String} (h : pairs? q = some [p]) :
    pair? q.toList = some p := by
  rw [pairs?] at h
  have hjoin := join_cut '&' q.toList
  rcases hcut : cut '&' q.toList with _ | ⟨part, _ | ⟨next, more⟩⟩ <;> rw [hcut] at h hjoin
  · exact absurd hcut (cut_ne_nil '&' q.toList)
  · change part = q.toList at hjoin
    rw [← hjoin]
    simpa [List.mapM_cons, Option.bind_eq_some_iff] using h
  · simp [List.mapM_cons, Option.bind_eq_some_iff] at h

/-- A question mark in an address is one too many: what stands behind it comes before the first
    name of the query. -/
theorem question_notMem (h : parameters? (address ++ "?" ++ query [("", "")]) = some [("", "")])
    (hmark : '#' ∉ address.toList) : '?' ∉ address.toList := by
  intro hquestion
  obtain ⟨front, rest, haddress, hfront⟩ := List.eq_append_cons_of_mem hquestion
  have hempty : (query [("", "")]).toList = ['='] := by decide
  have hurl : (address ++ "?" ++ query [("", "")]).toList =
      front ++ '?' :: (rest ++ ['?', '=']) := by
    simp [haddress, hempty]
  rw [parameters?, queryOf?_eq hurl hfront (mark_notMem_url hmark)] at h
  have hpair : pair? (rest ++ ['?', '=']) = some ("", "") := by
    simpa using pair?_of_pairs? h
  have hlength := length_of_pair? hpair
  simp at hlength

/-- **Arriving.** Parameters arrive at the addresses that have neither a question mark nor a
    number sign of their own, and at no others. -/
theorem parameters?_query_iff :
    (∀ pairs ≠ [], parameters? (address ++ "?" ++ query pairs) = some pairs) ↔
      '?' ∉ address.toList ∧ '#' ∉ address.toList := by
  constructor
  · intro h
    have hmark : '#' ∉ address.toList := by
      intro hmark
      have hsame : ∀ behind, parameters? (address ++ "?" ++ behind) = parameters? address := by
        intro behind
        rw [parameters?, String.append_assoc, queryOf?_of_mark hmark]
        rfl
      have hempty := h [("", "")] (by simp)
      have hnamed := h [("a", "")] (by simp)
      rw [hsame] at hempty hnamed
      exact absurd (hempty.symm.trans hnamed) (by decide)
    exact ⟨question_notMem (h [("", "")] (by simp)) hmark, hmark⟩
  · exact fun haddress pairs hpairs => parameters?_query haddress hpairs

end Arriving

end CloudSteward.Text
