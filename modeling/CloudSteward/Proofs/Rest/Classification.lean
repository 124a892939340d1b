import CloudSteward.Proofs.Recovery

/-!
# What a refusal says of the resource

A reply without success may report a status of its own, with a code. A code of 5 says that the
resource is missing, whatever the status of the reply; a code of 6 says that it exists, but not
if the status of the reply is 404: that status counts as a missing resource beside any code. So
the verdict on a reply follows the code unless the reply has this status and another code than
5, and then replies with one code are recovered from in different ways.

Results:

* `isAlreadyExists_refusal`: which refusals say that a resource exists.
* `refusal_follows_code_iff`: when a refusal follows the code that it reports, and which
  refusals with one code are treated alike.
* `refusal_overrules_code`: a status that counts more than a code.
-/

namespace CloudSteward

variable {verb : Verb} {url : String} {status : Nat} {body : String}

/-! ## The verdict on a reply -/

theorem isAlreadyExists_refusalOf (verb : Verb) (url : String) (status : Nat)
    (code : Option Int) (message : String) :
    (refusalOf verb url status code message).isAlreadyExists =
      (code == some codeAlreadyExists && status != statusNotFound) := by
  unfold refusalOf
  by_cases hmissing : code = some codeNotFound ∨ status = statusNotFound
  · rw [if_pos hmissing]
    rcases hmissing with rfl | rfl
    · rfl
    · simp [CloudError.isAlreadyExists]
  · rw [if_neg hmissing]
    obtain ⟨-, hstatus⟩ := not_or.mp hmissing
    by_cases hexists : code = some codeAlreadyExists
    · simp [hexists, hstatus, CloudError.isAlreadyExists]
    · rw [if_neg hexists, beq_eq_false_iff_ne.mpr hexists]
      split <;> rfl

/-- A refusal says that a resource exists exactly if its code does and its status is not that of
    a missing resource. -/
theorem isAlreadyExists_refusal (verb : Verb) (url : String) (status : Nat) (body : String) :
    (refusal verb url status body).isAlreadyExists =
      ((reportedStatus? body).any (·.code == codeAlreadyExists) && status != statusNotFound) := by
  unfold refusal
  cases reportedStatus? body with
  | none => simp [isAlreadyExists_refusalOf]
  | some reported => simp [isAlreadyExists_refusalOf]

/-! ## Following a code -/

/-- An error says of the resource what a code says: that it is missing, that it exists, or
    neither. -/
structure CloudError.Follows (e : CloudError) (code : Int) : Prop where
  missing : e.isNotFound = true ↔ code = codeNotFound
  existing : e.isAlreadyExists = true ↔ code = codeAlreadyExists

theorem isNotFound_refusal_iff {r : RpcStatus} (hr : reportedStatus? body = some r) :
    (refusal verb url status body).isNotFound = true ↔
      status = statusNotFound ∨ r.code = codeNotFound := by
  rw [isNotFound_refusal, hr]
  simp

theorem isAlreadyExists_refusal_iff {r : RpcStatus} (hr : reportedStatus? body = some r) :
    (refusal verb url status body).isAlreadyExists = true ↔
      r.code = codeAlreadyExists ∧ status ≠ statusNotFound := by
  rw [isAlreadyExists_refusal, hr]
  simp

theorem refusal_follows_iff {r : RpcStatus} (hr : reportedStatus? body = some r) :
    (refusal verb url status body).Follows r.code ↔
      (status = statusNotFound → r.code = codeNotFound) := by
  constructor
  · intro h hstatus
    exact h.missing.mp ((isNotFound_refusal_iff hr).mpr (.inl hstatus))
  · intro h
    constructor
    · rw [isNotFound_refusal_iff hr]
      exact or_iff_right_of_imp h
    · rw [isAlreadyExists_refusal_iff hr]
      refine and_iff_left_of_imp fun hcode hstatus => ?_
      -- no code is both 5 and 6
      have hboth := hcode.symm.trans (h hstatus)
      exact absurd hboth (by decide)

/-- Two refusals with one code are treated alike unless one of them, and not the other, has the
    status of a missing resource beside another code. -/
theorem refusals_treatedAlike_iff {verb' : Verb} {url' : String} {status' : Nat}
    {body' : String} {r r' : RpcStatus} (hr : reportedStatus? body = some r)
    (hr' : reportedStatus? body' = some r') (hcode : r'.code = r.code) :
    (refusal verb url status body).TreatedAlike (refusal verb' url' status' body') ↔
      r.code = codeNotFound ∨ (status = statusNotFound ↔ status' = statusNotFound) := by
  have hmissing : (refusal verb url status body).isNotFound =
      (refusal verb' url' status' body').isNotFound ↔
        (status = statusNotFound ∨ r.code = codeNotFound ↔
          status' = statusNotFound ∨ r.code = codeNotFound) := by
    rw [Bool.eq_iff_iff, isNotFound_refusal_iff hr, isNotFound_refusal_iff hr', hcode]
  have hexisting : (refusal verb url status body).isAlreadyExists =
      (refusal verb' url' status' body').isAlreadyExists ↔
        (r.code = codeAlreadyExists ∧ status ≠ statusNotFound ↔
          r.code = codeAlreadyExists ∧ status' ≠ statusNotFound) := by
    rw [Bool.eq_iff_iff, isAlreadyExists_refusal_iff hr, isAlreadyExists_refusal_iff hr', hcode]
  rw [treatedAlike_iff, hmissing, hexisting]
  by_cases hfive : r.code = codeNotFound
  · have hother : codeNotFound ≠ codeAlreadyExists := by decide
    simp [hfive, hother]
  · by_cases hstatus : status = statusNotFound <;>
      by_cases hstatus' : status' = statusNotFound <;>
      simp [hfive, hstatus, hstatus']

/-- **Classification.** A reply without success is an error, with a body that reports no status
    one that says that the resource is missing exactly if the status of the reply is 404. If the
    body reports a status, the error follows its code exactly if the status of the reply is not
    404 or the code is 5; at 404 it says that the resource is missing, whatever the code. Two
    such errors with one code, whatever else they report, are treated alike on every path of
    recovery exactly if the code is 5, or both replies have the status 404, or neither. -/
theorem refusal_follows_code_iff (verb : Verb) (url : String) (status : Nat) (body : String)
    (hs : isSuccess status = false) :
    bodyOf verb url (.reply status body) = .error (refusal verb url status body) ∧
      (reportedStatus? body = none →
        ((refusal verb url status body).isNotFound = true ↔ status = statusNotFound) ∧
          (refusal verb url status body).isAlreadyExists = false) ∧
      ∀ r, reportedStatus? body = some r →
        ((refusal verb url status body).Follows r.code ↔
          (status = statusNotFound → r.code = codeNotFound)) ∧
        (status = statusNotFound → (refusal verb url status body).isNotFound = true ∧
          (refusal verb url status body).isAlreadyExists = false) ∧
        ∀ verb' url' status' body' r', reportedStatus? body' = some r' → r'.code = r.code →
          ((refusal verb url status body).TreatedAlike (refusal verb' url' status' body') ↔
            r.code = codeNotFound ∨ (status = statusNotFound ↔ status' = statusNotFound)) := by
  refine ⟨?_, fun hnone => ⟨?_, ?_⟩, fun r hr => ⟨refusal_follows_iff hr, fun hstatus => ?_, ?_⟩⟩
  · rw [bodyOf, hs]
    rfl
  · rw [isNotFound_refusal, hnone]
    simp
  · rw [isAlreadyExists_refusal, hnone]
    rfl
  · refine ⟨(isNotFound_refusal_iff hr).mpr (.inl hstatus), ?_⟩
    rw [isAlreadyExists_refusal, hstatus]
    simp
  · intro verb' url' status' body' r' hr' hcode
    exact refusals_treatedAlike_iff hr hr' hcode

namespace Sample

/-- A status that says that a resource exists. -/
def existsBody : String := "\x7b\"code\":6,\"message\":\"exists\"\x7d"

theorem reportedStatus?_existsBody :
    ∃ r, reportedStatus? existsBody = some r ∧ r.code = codeAlreadyExists := by
  rw [← Option.map_eq_some_iff]
  decide +kernel

end Sample

open Sample in
/-- With the status 409 the code is followed, and so it is with the status 400, from wherever. -/
theorem refusal_follows_code_conflict :
    isSuccess 409 = false ∧
      (refusal .post "http://api.test" 409 existsBody).Follows codeAlreadyExists ∧
      (refusal .post "http://api.test" 409 existsBody).TreatedAlike
        (refusal .post "http://other.test" 400 existsBody) := by
  obtain ⟨r, hreported, hexists⟩ := reportedStatus?_existsBody
  obtain ⟨-, -, hcode⟩ :=
    refusal_follows_code_iff .post "http://api.test" 409 existsBody (by decide)
  obtain ⟨hfollows, -, halike⟩ := hcode r hreported
  rw [← hexists]
  refine ⟨by decide, hfollows.mpr fun hstatus => absurd hstatus (by decide), ?_⟩
  exact (halike .post "http://other.test" 400 existsBody r hreported rfl).mpr (.inr (by decide))

open Sample in
/-- With the status 404 the code is overruled: the resource counts as missing and not as
    existing, and the two replies with the code 6 are not treated alike. -/
theorem refusal_overrules_code :
    (refusal .post "http://api.test" 404 existsBody).isNotFound = true ∧
      (refusal .post "http://api.test" 404 existsBody).isAlreadyExists = false ∧
      (refusal .post "http://api.test" 409 existsBody).isAlreadyExists = true ∧
      ¬ (refusal .post "http://api.test" 404 existsBody).TreatedAlike
        (refusal .post "http://api.test" 409 existsBody) := by
  obtain ⟨r, hreported, hexists⟩ := reportedStatus?_existsBody
  refine ⟨(isNotFound_refusal_iff hreported).mpr (.inl rfl), ?_, ?_, ?_⟩
  · rw [Bool.eq_false_iff]
    intro h
    exact ((isAlreadyExists_refusal_iff hreported).mp h).2 rfl
  · exact (isAlreadyExists_refusal_iff hreported).mpr ⟨hexists, by decide⟩
  · rw [refusals_treatedAlike_iff hreported hreported rfl, hexists]
    decide

end CloudSteward
