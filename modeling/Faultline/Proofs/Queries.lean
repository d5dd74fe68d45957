import Faultline.Traffic

/-! # What a query does to the kind of a request

The path of a request comes with its query, and a Thrift endpoint is told by a piece that occurs
anywhere in it. No such piece has a question mark, so it stands before the query or in it: a query
with such a piece turns a request that is posted anywhere into a Thrift call
(`classify_query_iff`), and no other query matters.
-/

namespace Faultline

/-! ## Pieces of a text -/

theorem Text.contains_iff {part s : List Char} : contains part s = true ↔ part <:+: s := by
  induction s with
  | nil => rw [contains, List.isEmpty_iff, List.infix_nil]
  | cons c rest ih =>
      rw [contains, Bool.or_eq_true, List.isPrefixOf_iff_prefix, ih, List.infix_cons_iff]

/-- A piece without the separator stands on one side of it. -/
theorem Text.infix_separated {part : List Char} {separator : Char} (absent : separator ∉ part)
    (before behind : List Char) :
    part <:+: before ++ separator :: behind ↔ part <:+: before ∨ part <:+: behind := by
  constructor
  · intro occurs
    rcases List.infix_append_iff.mp occurs with left | right | ⟨end₁, start, rfl, ends, starts⟩
    · exact .inl left
    · rcases List.infix_cons_iff.mp right with starts | later
      · cases part with
        | nil => exact .inl List.nil_infix
        | cons c rest =>
            obtain ⟨rfl, _⟩ := List.cons_prefix_cons.mp starts
            exact absurd List.mem_cons_self absent
      · exact .inr later
    · cases start with
      | nil => exact .inl (by simpa using ends.isInfix)
      | cons c rest =>
          obtain ⟨rfl, _⟩ := List.cons_prefix_cons.mp starts
          exact absurd (List.mem_append_right _ List.mem_cons_self) absent
  · rintro (left | right)
    · exact List.infix_append_of_infix_left left
    · exact List.infix_append_of_infix_right (List.infix_cons right)

namespace Traffic

/-- A piece occurs in the text by which Thrift endpoints are told. -/
def HasThriftMark (text : String) : Prop := ∃ mark ∈ thriftMarks, mark.toList <:+: text.toList

theorem isThriftPath_iff {path : String} :
    isThriftPath path.toList = true ↔ HasThriftMark path := by
  simp only [isThriftPath, List.any_eq_true, Text.contains_iff, HasThriftMark]

theorem hasThriftMark_query (path query : String) :
    HasThriftMark (path ++ "?" ++ query) ↔ HasThriftMark path ∨ HasThriftMark query := by
  have absent : ∀ mark ∈ thriftMarks, '?' ∉ mark.toList := by decide
  have parts : (path ++ "?" ++ query).toList = path.toList ++ '?' :: query.toList := by
    simp
  simp only [HasThriftMark, parts]
  constructor
  · rintro ⟨mark, known, occurs⟩
    rcases (Text.infix_separated (absent mark known) _ _).mp occurs with left | right
    · exact .inl ⟨mark, known, left⟩
    · exact .inr ⟨mark, known, right⟩
  · rintro (⟨mark, known, left⟩ | ⟨mark, known, right⟩)
    · exact ⟨mark, known, (Text.infix_separated (absent mark known) _ _).mpr (.inl left)⟩
    · exact ⟨mark, known, (Text.infix_separated (absent mark known) _ _).mpr (.inr right)⟩

instance (text : String) : Decidable (HasThriftMark text) := decidable_of_iff _ isThriftPath_iff

/-- Requests with this method are posted. -/
def IsPosted (method : String) : Prop := Text.upper method.toList = "POST".toList

instance (method : String) : Decidable (IsPosted method) := inferInstanceAs (Decidable (_ = _))

/-! ## Kinds of requests with a query -/

theorem classify_posted {method : String} (posted : IsPosted method) (host path : String) :
    classify method host path = if HasThriftMark path then some .thriftCall else none := by
  have posted : Text.upper method.toList = "POST".toList := posted
  have other : "POST".toList ≠ "GET".toList := by decide
  simp only [classify, posted, other, decide_false, Bool.false_and, Bool.false_eq_true, if_false,
    decide_true, Bool.true_and, isThriftPath_iff]

/-- Where nothing is posted, the path does not matter. -/
theorem classify_unposted {method : String} (unposted : ¬ IsPosted method)
    (host path other : String) : classify method host path = classify method host other := by
  have unposted : Text.upper method.toList ≠ "POST".toList := unposted
  simp only [classify, unposted, decide_false, Bool.false_and, Bool.false_eq_true, if_false]

theorem classify_thriftCall_iff {method host path : String} :
    classify method host path = some .thriftCall ↔ IsPosted method ∧ HasThriftMark path := by
  by_cases posted : IsPosted method
  · rw [classify_posted posted]
    simp [posted]
  · have unposted : Text.upper method.toList ≠ "POST".toList := posted
    simp only [classify, unposted, decide_false, Bool.false_and, Bool.false_eq_true, if_false,
      posted, false_and, iff_false]
    split <;> simp

theorem classify_query (method host path query : String) :
    classify method host (path ++ "?" ++ query) =
      if IsPosted method ∧ HasThriftMark query then some .thriftCall
      else classify method host path := by
  by_cases posted : IsPosted method
  · rw [classify_posted posted, classify_posted posted]
    by_cases asked : HasThriftMark query
    · rw [if_pos ((hasThriftMark_query path query).mpr (.inr asked)), if_pos ⟨posted, asked⟩]
    · simp only [hasThriftMark_query, asked, or_false, and_false, if_false]
  · rw [if_neg fun h => posted h.1, classify_unposted posted]

/-- A query changes the kind of a request exactly when the request is posted and a Thrift piece
    occurs in the query alone; it makes a Thrift call of what no scenario aims at, also on the route
    of the statements. -/
theorem classify_query_iff (method host path query : String) :
    (classify method host (path ++ "?" ++ query) = classify method host path ↔
      ¬ (IsPosted method ∧ HasThriftMark query ∧ ¬ HasThriftMark path)) ∧
    (classify method host (path ++ "?" ++ query) = classify method host path ∨
      classify method host path = none ∧
        classify method host (path ++ "?" ++ query) = some .thriftCall) ∧
    (classify method host ("/api/2.0/sql/statements" ++ "?" ++ query) = some .thriftCall ↔
      IsPosted method ∧ HasThriftMark query) := by
  have regular : ¬ HasThriftMark "/api/2.0/sql/statements" := by decide
  refine ⟨?_, ?_, ?_⟩
  · rw [classify_query]
    by_cases asked : IsPosted method ∧ HasThriftMark query
    · rw [if_pos asked, eq_comm, classify_thriftCall_iff]
      simp only [asked, true_and, Decidable.not_not]
    · rw [if_neg asked, eq_self, true_iff]
      exact fun h => asked ⟨h.1, h.2.1⟩
  · rw [classify_query]
    by_cases asked : IsPosted method ∧ HasThriftMark query
    · rw [if_pos asked, classify_posted asked.1]
      by_cases marked : HasThriftMark path
      · exact .inl (if_pos marked).symm
      · exact .inr ⟨if_neg marked, rfl⟩
    · exact .inl (if_neg asked)
  · rw [classify_thriftCall_iff, hasThriftMark_query]
    simp only [regular, false_or]

/-- What statements are to go on with makes a Thrift call of them. -/
theorem statements_taken_for_thrift :
    classify "POST" "dbc.cloud.databricks.com"
        ("/api/2.0/sql/statements" ++ "?" ++ "next=/sql/1.0/warehouses/") = some .thriftCall ∧
      classify "POST" "dbc.cloud.databricks.com" "/api/2.0/sql/statements" = none := by
  decide +kernel

end Traffic

end Faultline
