import Faultline.Proofs.Blame

/-! # The grammar of verification requests

What a document has to say to be a request, and what it is told otherwise, are described apart from
the reader (`Request.WrittenIn`, `Refuted`). The descriptions leave no document out
(`written_or_refuted`) and the reader follows each of them, so it follows them exactly
(`request_grammar`).
-/

namespace Faultline.Verification

/-! ## Fields -/

/-- What a request can have besides its kind. -/
inductive Field where
  | methods
  | method
  | count

namespace Field

def key : Field → String
  | methods => "methods"
  | method => "method"
  | count => "count"

/-- What a client is told that a field has to be. -/
def form : Field → String
  | methods => "an array of strings"
  | method => "a string"
  | count => "a non-negative integer"

inductive Blank : Field → Option Json → Prop
  | absent {f} : Blank f none
  | null {f} : Blank f (some .null)
  /-- A method without a name is no method. -/
  | nameless : Blank method (some (.string ""))

inductive Holds : Field → Json → Prop
  | methods (names : List String) : Holds methods (.ofStrings names)
  | method (name : String) (named : name ≠ "") : Holds method (.string name)
  | count (n : Nat) : Holds count (.number (.ofNat n))

theorem blank_iff {f : Field} {v : Option Json} :
    f.Blank v ↔ v = none ∨ v = some .null ∨ f = method ∧ v = some (.string "") := by
  constructor
  · intro blank
    cases blank <;> simp
  · rintro (rfl | rfl | ⟨rfl, rfl⟩)
    · exact .absent
    · exact .null
    · exact .nameless

/-- The object says in the field what the field has to hold. -/
def Given (ms : Members) (f : Field) : Prop := ∃ v, ms.lookup f.key = some v ∧ f.Holds v

theorem Given.names {ms : Members} (given : methods.Given ms) :
    ∃ names, ms.lookup "methods" = some (.ofStrings names) := by
  obtain ⟨v, found, held⟩ := given
  cases held with
  | methods names => exact ⟨names, found⟩

theorem Given.name {ms : Members} (given : method.Given ms) :
    ∃ name, ms.lookup "method" = some (.string name) ∧ name ≠ "" := by
  obtain ⟨v, found, held⟩ := given
  cases held with
  | method name named => exact ⟨name, found, named⟩

theorem Given.natural {ms : Members} (given : count.Given ms) :
    ∃ n : Nat, ms.lookup "count" = some (.number (.ofNat n)) := by
  obtain ⟨v, found, held⟩ := given
  cases held with
  | count n => exact ⟨n, found⟩

/-- What is told about a field that is not given. -/
inductive Missed (ms : Members) (f : Field) : Rejection → Prop
  | missing (blank : f.Blank (ms.lookup f.key)) : Missed ms f (.missing f.key)
  | format {v : Json} (found : ms.lookup f.key = some v) (written : ¬ f.Blank (some v))
      (unfit : ¬ f.Holds v) : Missed ms f (.format f.key f.form (some v))

/-- The first of several fields that is not given is the one that is told about. -/
inductive FirstMissed (ms : Members) : List Field → Rejection → Prop
  | here {f fs r} (missed : f.Missed ms r) : FirstMissed ms (f :: fs) r
  | later {f fs r} (given : f.Given ms) (rest : FirstMissed ms fs r) : FirstMissed ms (f :: fs) r

theorem given_or_missed (ms : Members) (f : Field) : f.Given ms ∨ ∃ r, f.Missed ms r := by
  by_cases blank : f.Blank (ms.lookup f.key)
  · exact .inr ⟨_, .missing blank⟩
  · cases found : ms.lookup f.key with
    | none =>
        rw [found] at blank
        exact absurd .absent blank
    | some v =>
        rw [found] at blank
        by_cases held : f.Holds v
        · exact .inl ⟨v, found, held⟩
        · exact .inr ⟨_, .format found blank held⟩

theorem given_or_firstMissed (ms : Members) (fs : List Field) :
    (∀ f ∈ fs, f.Given ms) ∨ ∃ r, FirstMissed ms fs r := by
  induction fs with
  | nil => exact .inl nofun
  | cons f rest ih =>
      rcases given_or_missed ms f with given | ⟨r, missed⟩
      · rcases ih with all | ⟨r, later⟩
        · exact .inl (List.forall_mem_cons.mpr ⟨given, all⟩)
        · exact .inr ⟨r, .later given later⟩
      · exact .inr ⟨r, .here missed⟩

end Field

/-! ## Readers of single fields -/

theorem mapM_string? (items : List Json) (names : List String) :
    items.mapM Json.string? = some names ↔ items = names.map .string := by
  induction items generalizing names with
  | nil => cases names <;> simp
  | cons v rest ih =>
      rw [List.mapM_cons]
      cases v with
      | string s =>
          cases names with
          | nil => simp [Json.string?, Option.bind_eq_some_iff]
          | cons name others =>
              simp [Json.string?, Option.bind_eq_some_iff, ih]
              exact and_comm
      | null | bool | number | array | object => cases names <;> simp [Json.string?]

theorem strings?_eq_some {v : Json} {names : List String} :
    v.strings? = some names ↔ v = .ofStrings names := by
  cases v with
  | array items => simp [Json.strings?, Json.ofStrings, mapM_string?]
  | null | bool | number | string | object => simp [Json.strings?, Json.ofStrings]

namespace Request

variable {ms : Members} {r : Rejection}

theorem require_given {key : String} {v : Json} (found : ms.lookup key = some v)
    (written : v ≠ .null) : require ms key = .ok v := by
  unfold require
  rw [found]
  cases v with
  | null => exact absurd rfl written
  | bool | number | string | array | object => rfl

theorem require_blank {f : Field} (blank : f.Blank (ms.lookup f.key)) :
    require ms f.key = .error (.missing f.key) ∨
      f = .method ∧ ms.lookup f.key = some (.string "") := by
  unfold require
  rcases Field.blank_iff.mp blank with absent | null | nameless
  · simp [absent]
  · simp [null]
  · exact .inr nameless

theorem readMethods_given {names : List String}
    (found : ms.lookup "methods" = some (.ofStrings names)) : readMethods ms = .ok names := by
  have texts : (Json.ofStrings names).strings? = some names := strings?_eq_some.mpr rfl
  have there := require_given found (by simp [Json.ofStrings])
  simp [readMethods, there, texts, bind, Except.bind]

theorem readMethod_given {name : String} (found : ms.lookup "method" = some (.string name))
    (named : name ≠ "") : readMethod ms = .ok name := by
  have there := require_given found (by simp)
  simp [readMethod, there, named, bind, Except.bind]

theorem readCount_given {n : Nat} (found : ms.lookup "count" = some (.number (.ofNat n))) :
    readCount ms = .ok (.ofNat n) := by
  have there := require_given found (by simp)
  have counts : (Number.ofNat n).isCount = true := Number.isCount_iff.mpr ⟨n, rfl⟩
  simp [readCount, there, counts, bind, Except.bind]

theorem readMethods_missed (missed : Field.methods.Missed ms r) : readMethods ms = .error r := by
  cases missed with
  | missing blank =>
      rcases require_blank blank with absent | ⟨alien, _⟩
      · simp_all [readMethods, bind, Except.bind, Field.key]
      · cases alien
  | @format v found written unfit =>
      have there := require_given found (by rintro rfl; exact written .null)
      have mixed : v.strings? = none := by
        refine Option.eq_none_iff_forall_ne_some.mpr fun names texts => ?_
        rw [strings?_eq_some.mp texts] at unfit
        exact unfit (.methods names)
      simp_all [readMethods, bind, Except.bind, Field.key, Field.form]

theorem readMethod_missed (missed : Field.method.Missed ms r) : readMethod ms = .error r := by
  cases missed with
  | missing blank =>
      rcases require_blank blank with absent | ⟨_, nameless⟩
      · simp_all [readMethod, bind, Except.bind, Field.key]
      · have there := require_given nameless (by simp)
        simp_all [readMethod, bind, Except.bind, Field.key]
  | @format v found written unfit =>
      have there := require_given found (by rintro rfl; exact written .null)
      cases v with
      | string name =>
          by_cases nameless : name = ""
          · rw [nameless] at written
            exact absurd .nameless written
          · exact absurd (.method name nameless) unfit
      | null | bool | number | array | object =>
          simp_all [readMethod, bind, Except.bind, Field.key, Field.form]

theorem readCount_missed (missed : Field.count.Missed ms r) : readCount ms = .error r := by
  cases missed with
  | missing blank =>
      rcases require_blank blank with absent | ⟨alien, _⟩
      · simp_all [readCount, bind, Except.bind, Field.key]
      · cases alien
  | @format v found written unfit =>
      have there := require_given found (by rintro rfl; exact written .null)
      cases v with
      | number n =>
          have uncounted : n.isCount = false := by
            refine Bool.eq_false_iff.mpr fun counts => ?_
            obtain ⟨k, rfl⟩ := Number.isCount_iff.mp counts
            exact unfit (.count k)
          simp_all [readCount, bind, Except.bind, Field.key, Field.form]
      | null | bool | string | array | object =>
          simp_all [readCount, bind, Except.bind, Field.key, Field.form]

end Request

/-! ## Requests -/

/-- The kinds of requests with their fields, in the order in which these are looked at. -/
inductive Takes : String → List Field → Prop
  | exact : Takes "exact_sequence" [.methods]
  | contained : Takes "contains_sequence" [.methods]
  | count : Takes "method_count" [.method, .count]
  | occurs : Takes "method_exists" [.method]

theorem takes_iff {name : String} : (∃ fields, Takes name fields) ↔ name ∈ kindNames := by
  constructor
  · rintro ⟨_, takes⟩
    cases takes <;> decide
  · intro known
    simp only [kindNames, List.mem_cons, List.not_mem_nil, or_false] at known
    rcases known with rfl | rfl | rfl | rfl
    · exact ⟨_, .exact⟩
    · exact ⟨_, .contained⟩
    · exact ⟨_, .count⟩
    · exact ⟨_, .occurs⟩

/-- The members of an object say what is asked for. Members of other names do not count. -/
inductive Request.WrittenIn (ms : Members) : Request → Prop
  | exact {names : List String} (kind : ms.lookup "type" = some (.string "exact_sequence"))
      (methods : ms.lookup "methods" = some (.ofStrings names)) :
      WrittenIn ms (.sequence .exact names)
  | contained {names : List String}
      (kind : ms.lookup "type" = some (.string "contains_sequence"))
      (methods : ms.lookup "methods" = some (.ofStrings names)) :
      WrittenIn ms (.sequence .contained names)
  | count {name : String} {n : Nat} (kind : ms.lookup "type" = some (.string "method_count"))
      (method : ms.lookup "method" = some (.string name)) (named : name ≠ "")
      (count : ms.lookup "count" = some (.number (.ofNat n))) :
      WrittenIn ms (.count name (.ofNat n))
  | occurs {name : String} (kind : ms.lookup "type" = some (.string "method_exists"))
      (method : ms.lookup "method" = some (.string name)) (named : name ≠ "") :
      WrittenIn ms (.occurs name)

/-- A body is told what it misses first: that it is no object, that it names no kind or none that
    exists, or a field of its kind. -/
inductive Refuted : Option Json → Rejection → Prop
  | body {b : Option Json} (other : ∀ ms, b ≠ some (.object ms)) : Refuted b (.missing "body")
  | noKind {ms : Members} (blank : ms.lookup "type" = none ∨ ms.lookup "type" = some .null ∨
      ms.lookup "type" = some (.string "")) : Refuted (some (.object ms)) (.missing "type")
  | kind {ms : Members} {v : Json} {shown : String} (found : ms.lookup "type" = some v)
      (written : v ≠ .null ∧ v ≠ .string "")
      (unknown : ∀ name fields, Takes name fields → v ≠ .string name)
      (quoted : v.text? = some shown) :
      Refuted (some (.object ms)) (.value "verification type" (some v) shown kindNames)
  | field {ms : Members} {name : String} {fields : List Field} {r : Rejection}
      (found : ms.lookup "type" = some (.string name)) (takes : Takes name fields)
      (missed : Field.FirstMissed ms fields r) : Refuted (some (.object ms)) r

theorem written_of_given {ms : Members} {name : String} {fields : List Field}
    (kind : ms.lookup "type" = some (.string name)) (takes : Takes name fields)
    (given : ∀ f ∈ fields, f.Given ms) : ∃ r : Request, r.WrittenIn ms := by
  cases takes with
  | exact =>
      obtain ⟨names, methods⟩ := (given .methods (by simp)).names
      exact ⟨_, .exact kind methods⟩
  | contained =>
      obtain ⟨names, methods⟩ := (given .methods (by simp)).names
      exact ⟨_, .contained kind methods⟩
  | count =>
      obtain ⟨name, method, named⟩ := (given .method (by simp)).name
      obtain ⟨n, count⟩ := (given .count (by simp)).natural
      exact ⟨_, .count kind method named count⟩
  | occurs =>
      obtain ⟨name, method, named⟩ := (given .method (by simp)).name
      exact ⟨_, .occurs kind method named⟩

/-- No document is left out. -/
theorem written_or_refuted (b : Option Json) :
    (∃ ms, b = some (.object ms) ∧ ∃ r : Request, r.WrittenIn ms) ∨
      (∃ reason, Refuted b reason) ∨ ∃ body, b = some body ∧ Request.Unquotable body := by
  by_cases object : ∃ ms, b = some (.object ms)
  · obtain ⟨ms, rfl⟩ := object
    cases found : ms.lookup "type" with
    | none => exact .inr (.inl ⟨_, .noKind (.inl found)⟩)
    | some v =>
        -- A kind that exists leaves its fields to be missed, any other one is missed itself.
        by_cases known : ∃ name fields, Takes name fields ∧ v = .string name
        · obtain ⟨name, fields, takes, rfl⟩ := known
          rcases Field.given_or_firstMissed ms fields with given | ⟨reason, missed⟩
          · exact .inl ⟨ms, rfl, written_of_given found takes given⟩
          · exact .inr (.inl ⟨reason, .field found takes missed⟩)
        · by_cases blank : v = .null ∨ v = .string ""
          · refine .inr (.inl ⟨_, .noKind (.inr ?_)⟩)
            rcases blank with rfl | rfl
            · exact .inl found
            · exact .inr found
          · rw [not_or] at blank
            cases quoted : v.text? with
            | some shown =>
                refine .inr (.inl ⟨_, .kind found blank (fun name fields takes same => ?_) quoted⟩)
                exact known ⟨name, fields, takes, same⟩
            | none => exact .inr (.inr ⟨_, rfl, v, found, quoted⟩)
  · exact .inr (.inl ⟨_, .body fun ms same => object ⟨ms, same⟩⟩)

namespace Request

variable {ms : Members}

theorem ofKind?_sequence (mode : SequenceMode) :
    ofKind? ms mode.name = some ((readMethods ms).map (.sequence mode)) := by
  cases mode with
  | exact | contained => rfl

theorem ofKind?_count : ofKind? ms "method_count" = some (do
    let method ← readMethod ms
    let count ← readCount ms
    .ok (.count method count)) := rfl

theorem ofKind?_occurs : ofKind? ms "method_exists" = some ((readMethod ms).map .occurs) := rfl

theorem ofBody?_known {name : String} {checked : Except Rejection Request}
    (kind : ms.lookup "type" = some (.string name)) (named : name ≠ "")
    (known : ofKind? ms name = some checked) : ofBody? (some (.object ms)) = .ok checked := by
  simp [ofBody?, kind, known]

theorem ofBody?_unknown {v : Json} (kind : ms.lookup "type" = some v)
    (written : v ≠ .null ∧ v ≠ .string "") (unknown : ∀ name ∈ kindNames, v ≠ .string name) :
    ofBody? (some (.object ms)) = unknownKind v := by
  cases v with
  | null => exact absurd rfl written.1
  | string name =>
      have none : ofKind? ms name = none := ofKind?_none fun known => unknown name known rfl
      have named : name ≠ "" := by
        rintro rfl
        exact written.2 rfl
      simp [ofBody?, kind, none]
  | bool | number | array | object => simp [ofBody?, kind]

theorem ofBody?_written {r : Request} (written : r.WrittenIn ms) :
    ofBody? (some (.object ms)) = .ok (.ok r) := by
  cases written with
  | exact kind methods =>
      refine ofBody?_known kind (by simp) ((ofKind?_sequence .exact).trans ?_)
      rw [readMethods_given methods]
      rfl
  | contained kind methods =>
      refine ofBody?_known kind (by simp) ((ofKind?_sequence .contained).trans ?_)
      rw [readMethods_given methods]
      rfl
  | count kind method named count =>
      refine ofBody?_known kind (by simp) (ofKind?_count.trans ?_)
      rw [readMethod_given method named, readCount_given count]
      rfl
  | occurs kind method named =>
      refine ofBody?_known kind (by simp) (ofKind?_occurs.trans ?_)
      rw [readMethod_given method named]
      rfl

theorem readMethods_firstMissed {r : Rejection} (missed : Field.FirstMissed ms [.methods] r) :
    readMethods ms = .error r := by
  cases missed with
  | here missed => exact readMethods_missed missed
  | later _ rest => cases rest

theorem ofKind?_firstMissed {name : String} {fields : List Field} {r : Rejection}
    (takes : Takes name fields) (missed : Field.FirstMissed ms fields r) :
    ofKind? ms name = some (.error r) := by
  cases takes with
  | exact =>
      refine (ofKind?_sequence .exact).trans ?_
      rw [readMethods_firstMissed missed]
      rfl
  | contained =>
      refine (ofKind?_sequence .contained).trans ?_
      rw [readMethods_firstMissed missed]
      rfl
  | count =>
      refine ofKind?_count.trans ?_
      cases missed with
      | here missed =>
          rw [readMethod_missed missed]
          rfl
      | later given rest =>
          obtain ⟨name, found, named⟩ := given.name
          rw [readMethod_given found named]
          cases rest with
          | here missed =>
              rw [readCount_missed missed]
              rfl
          | later _ rest => cases rest
  | occurs =>
      refine ofKind?_occurs.trans ?_
      cases missed with
      | here missed =>
          rw [readMethod_missed missed]
          rfl
      | later _ rest => cases rest

theorem ofBody?_refuted {b : Option Json} {reason : Rejection} (refuted : Refuted b reason) :
    ofBody? b = .ok (.error reason) := by
  cases refuted with
  | body other =>
      cases b with
      | none => rfl
      | some body =>
          cases body with
          | object ms => exact absurd rfl (other ms)
          | null | bool | number | string | array => rfl
  | noKind blank => rcases blank with absent | null | nameless <;> simp [ofBody?, *]
  | kind found written unknown quoted =>
      rw [ofBody?_unknown found written, unknownKind_quoted quoted]
      intro name known same
      obtain ⟨fields, takes⟩ := takes_iff.mpr known
      exact unknown name fields takes same
  | field found takes missed =>
      have named : ∀ {name fields}, Takes name fields → name ≠ "" := by
        intro name fields takes
        cases takes <;> simp
      exact ofBody?_known found (named takes) (ofKind?_firstMissed takes missed)

/-! ## Documents of requests -/

/-- The names of the members that a request is written in. -/
def keys : Request → List String
  | sequence .. => ["type", "methods"]
  | count .. => ["type", "method", "count"]
  | occurs _ => ["type", "method"]

/-- The method that is asked about has a name, and a count can be reached. -/
inductive Proper : Request → Prop
  | sequence (mode : SequenceMode) (names : List String) : Proper (.sequence mode names)
  | count {name : String} (named : name ≠ "") (n : Nat) : Proper (.count name (.ofNat n))
  | occurs {name : String} (named : name ≠ "") : Proper (.occurs name)

theorem WrittenIn.proper {r : Request} (written : r.WrittenIn ms) : r.Proper := by
  cases written with
  | exact | contained => exact .sequence _ _
  | count _ _ named => exact .count named _
  | occurs _ _ named => exact .occurs named

theorem WrittenIn.congr {r : Request} (written : r.WrittenIn ms) {others : Members}
    (same : ∀ key ∈ r.keys, others.lookup key = ms.lookup key) : r.WrittenIn others := by
  cases written with
  | exact kind methods =>
      exact .exact ((same "type" (by simp [keys])).trans kind)
        ((same "methods" (by simp [keys])).trans methods)
  | contained kind methods =>
      exact .contained ((same "type" (by simp [keys])).trans kind)
        ((same "methods" (by simp [keys])).trans methods)
  | count kind method named count =>
      exact .count ((same "type" (by simp [keys])).trans kind)
        ((same "method" (by simp [keys])).trans method) named
        ((same "count" (by simp [keys])).trans count)
  | occurs kind method named =>
      exact .occurs ((same "type" (by simp [keys])).trans kind)
        ((same "method" (by simp [keys])).trans method) named

/-- What a proper request is written as says what is asked for. -/
theorem Proper.written {r : Request} (proper : r.Proper) :
    ∃ ms, r.document = .object ms ∧ r.WrittenIn ms := by
  cases proper with
  | sequence mode names =>
      cases mode with
      | exact => exact ⟨_, rfl, .exact rfl rfl⟩
      | contained => exact ⟨_, rfl, .contained rfl rfl⟩
  | count named n => exact ⟨_, rfl, .count rfl rfl named rfl⟩
  | occurs named => exact ⟨_, rfl, .occurs rfl rfl named⟩

theorem Proper.ofBody?_document {r : Request} (proper : r.Proper) :
    ofBody? (some r.document) = .ok (.ok r) := by
  obtain ⟨ms, same, written⟩ := proper.written
  rw [same]
  exact ofBody?_written written

theorem ofBody?_accepted {b : Option Json} {r : Request} (h : ofBody? b = .ok (.ok r)) :
    ∃ ms, b = some (.object ms) ∧ r.WrittenIn ms := by
  rcases written_or_refuted b with ⟨ms, rfl, other, written⟩ | ⟨reason, refuted⟩ | ⟨body, rfl, mute⟩
  · rw [ofBody?_written written] at h
    obtain rfl := Except.ok.inj (Except.ok.inj h)
    exact ⟨ms, rfl, written⟩
  · rw [ofBody?_refuted refuted] at h
    cases h
  · rw [ofBody?_unquotable mute] at h
    cases h

theorem ofBody?_rejected {b : Option Json} {reason : Rejection}
    (h : ofBody? b = .ok (.error reason)) : Refuted b reason := by
  rcases written_or_refuted b with ⟨ms, rfl, r, written⟩ | ⟨other, refuted⟩ | ⟨body, rfl, mute⟩
  · rw [ofBody?_written written] at h
    cases h
  · rw [ofBody?_refuted refuted] at h
    obtain rfl := Except.error.inj (Except.ok.inj h)
    exact refuted
  · rw [ofBody?_unquotable mute] at h
    cases h

theorem ofBody?_failed {b : Option Json} {f : Failure} (h : ofBody? b = .error f) :
    f = .noText ∧ ∃ body, b = some body ∧ Unquotable body := by
  rcases written_or_refuted b with ⟨ms, rfl, r, written⟩ | ⟨other, refuted⟩ | ⟨body, rfl, mute⟩
  · rw [ofBody?_written written] at h
    cases h
  · rw [ofBody?_refuted refuted] at h
    cases h
  · rw [ofBody?_unquotable mute] at h
    exact ⟨(Except.error.inj h).symm, body, rfl, mute⟩

/-- A request is what an object writes, whatever else is in the object; all other bodies are
    refuted but for those whose kind has no text. What is accepted can be written and read again. -/
theorem request_grammar (b : Option Json) (r : Request) :
    (ofBody? b = .ok (.ok r) ↔ ∃ ms, b = some (.object ms) ∧ r.WrittenIn ms) ∧
      (∀ reason, ofBody? b = .ok (.error reason) ↔ Refuted b reason) ∧
      (∀ f, ofBody? b = .error f ↔ f = .noText ∧ ∃ body, b = some body ∧ Unquotable body) ∧
      (∀ ms others : Members, (∀ key ∈ r.keys, others.lookup key = ms.lookup key) →
        ofBody? (some (.object ms)) = .ok (.ok r) →
        ofBody? (some (.object others)) = .ok (.ok r)) ∧
      (ofBody? b = .ok (.ok r) → r.Proper ∧ ofBody? (some r.document) = .ok (.ok r)) ∧
      (r.Proper → ofBody? (some r.document) = .ok (.ok r)) := by
  refine ⟨⟨ofBody?_accepted, ?_⟩, ?_, ?_, ?_, ?_, ?_⟩
  · rintro ⟨ms, rfl, written⟩
    exact ofBody?_written written
  · intro reason
    exact ⟨ofBody?_rejected, ofBody?_refuted⟩
  · intro f
    refine ⟨ofBody?_failed, ?_⟩
    rintro ⟨rfl, body, rfl, mute⟩
    exact ofBody?_unquotable mute
  · intro ms others same accepted
    obtain ⟨_, object, written⟩ := ofBody?_accepted accepted
    obtain rfl := Json.object.inj (Option.some.inj object)
    exact ofBody?_written (written.congr same)
  · intro accepted
    obtain ⟨ms, _, written⟩ := ofBody?_accepted accepted
    exact ⟨written.proper, written.proper.ofBody?_document⟩
  · exact Proper.ofBody?_document

/-- Members that a kind does not have may hold anything. -/
example : ofBody? (some (.object [("count", .ofNat 2), ("methods", .bool true),
    ("type", .string "method_count"), ("method", .string "FetchResults")])) =
    .ok (.ok (.count "FetchResults" (.ofNat 2))) := rfl

end Request

end Faultline.Verification
