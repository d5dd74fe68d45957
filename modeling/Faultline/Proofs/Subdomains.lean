import Faultline.Proofs.Queries
import Faultline.Proofs.Texts

/-! # Which hosts are storage

A host belongs to a storage domain if all labels of the domain are its last labels, and not if the
text of the domain merely ends it (`isStorageHost_iff`). What a client may write around a host, and
in which case it writes it, makes no difference (`normalizeHost_spelled`); an address in brackets is
never storage (`isStorageHost_bracketed`).
-/

namespace Faultline.Traffic

/-! ## Labels -/

/-- The labels of a host, which dots separate. -/
def labels (host : List Char) : List (List Char) := host.splitOn '.'

theorem labels_ne_nil (host : List Char) : labels host ≠ [] := List.splitOn_ne_nil _ _

theorem labels_joined (host : List Char) : ['.'].intercalate (labels host) = host :=
  List.intercalate_splitOn '.'

theorem labels_dot (sub host : List Char) :
    labels (sub ++ '.' :: host) = labels sub ++ labels host :=
  List.splitOn_append_cons_self ..

/-- The last labels of the host are the labels of the domain, all of them. -/
def LiesIn (host domain : List Char) : Prop := labels domain <:+ labels host

theorem joined_append {front back : List (List Char)} (some : front ≠ []) (more : back ≠ []) :
    ['.'].intercalate (front ++ back) =
      ['.'].intercalate front ++ '.' :: ['.'].intercalate back := by
  induction front with
  | nil => exact absurd rfl some
  | cons label front ih =>
      cases front with
      | nil =>
          rw [List.singleton_append, List.intercalate_cons_of_ne_nil more,
            List.intercalate_singleton]
          simp
      | cons next front =>
          have nonempty : next :: front ++ back ≠ [] := by simp
          rw [List.cons_append, List.intercalate_cons_of_ne_nil nonempty, ih (by simp),
            List.intercalate_cons_of_ne_nil (List.cons_ne_nil next front)]
          simp

theorem inDomain_iff {host domain : List Char} :
    inDomain host domain = true ↔ LiesIn host domain := by
  rw [inDomain, Bool.or_eq_true, beq_iff_eq, List.isSuffixOf_iff_suffix]
  constructor
  · rintro (rfl | ⟨sub, rfl⟩)
    · exact List.suffix_refl _
    · exact ⟨labels sub, (labels_dot sub domain).symm⟩
  · rintro ⟨front, whole⟩
    cases front with
    | nil =>
        rw [← labels_joined host, ← whole, List.nil_append, labels_joined]
        exact .inl rfl
    | cons label front =>
        refine .inr ⟨['.'].intercalate (label :: front), ?_⟩
        have parts := joined_append (List.cons_ne_nil label front) (labels_ne_nil domain)
        rw [whole, labels_joined, labels_joined] at parts
        exact parts.symm

/-- The host lies in one of the storage domains. -/
def IsStorage (host : List Char) : Prop := ∃ domain ∈ storageDomains, LiesIn host domain.toList

theorem isStorageHost_iff {host : List Char} :
    isStorageHost host = true ↔ IsStorage (normalizeHost host) := by
  simp only [isStorageHost, List.any_eq_true, inDomain_iff, IsStorage]

/-! ## Hosts that look alike -/

theorem storage_subdomain {domain : String} (known : domain ∈ storageDomains)
    (sub : List Char) : IsStorage (sub ++ '.' :: domain.toList) :=
  ⟨domain, known, labels sub, (labels_dot sub domain.toList).symm⟩

/-- What holds of any two storage domains: neither lies in what is behind the first label of the
    other, what is behind the first label tells the domain, and none ends within another. -/
theorem domains_apart : ∀ domain ∈ storageDomains, ∀ other ∈ storageDomains,
    ¬ labels other.toList <:+ (labels domain.toList).tail ∧
      ((labels domain.toList).tail <:+ labels other.toList → other = domain) ∧
      ∀ last ∈ (labels domain.toList).getLast?, last ∉ (labels other.toList).dropLast := by
  decide +kernel

/-- A storage domain behind the beginning of a longer first label is another domain. -/
theorem storage_longer_label {domain : String} (known : domain ∈ storageDomains)
    {front : List Char} (longer : front ≠ []) (undotted : front.getLast? ≠ some '.') :
    ¬ IsStorage (front ++ domain.toList) := by
  have dotted : ∀ domain ∈ storageDomains, '.' ∈ domain.toList := by decide
  obtain ⟨first, rest, whole, apart⟩ := List.eq_append_cons_of_mem (dotted domain known)
  have single : labels first = [first] := List.splitOn_eq_singleton apart
  have tail : (labels domain.toList).tail = labels rest := by
    rw [whole, labels_dot, single]
    rfl
  have parts : labels (front ++ domain.toList) = labels (front ++ first) ++ labels rest := by
    rw [whole, ← List.append_assoc, labels_dot]
  rintro ⟨other, listed, lies⟩
  obtain ⟨behind, alone, _⟩ := domains_apart domain known other listed
  rw [tail] at behind alone
  rw [LiesIn, parts] at lies
  rcases List.suffix_or_suffix_of_suffix lies (List.suffix_append _ _) with within | around
  · exact behind within
  · obtain rfl := alone around
    rw [whole, labels_dot, List.suffix_append_self_iff] at lies
    have ends : inDomain (front ++ first) first = true := inDomain_iff.mpr lies
    rw [inDomain, Bool.or_eq_true, beq_iff_eq, List.isSuffixOf_iff_suffix] at ends
    rcases ends with same | dot
    · exact longer (List.append_left_eq_self.mp same)
    · obtain ⟨before, rfl⟩ := List.suffix_append_self_iff.mp (show ['.'] ++ first <:+ _ from dot)
      exact undotted (by simp)

/-- A storage domain in front of another host decides nothing. -/
theorem storage_followed {domain : String} (known : domain ∈ storageDomains)
    (host : List Char) : IsStorage (domain.toList ++ '.' :: host) ↔ IsStorage host := by
  constructor
  · rintro ⟨other, listed, lies⟩
    refine ⟨other, listed, ?_⟩
    have own : labels host <:+ labels (domain.toList ++ '.' :: host) :=
      ⟨labels domain.toList, (labels_dot _ _).symm⟩
    rcases List.suffix_or_suffix_of_suffix lies own with within | ⟨front, whole⟩
    · exact within
    · cases front using List.reverseRecOn with
      | nil => exact ⟨[], by rw [← whole]; rfl⟩
      | append_singleton front last =>
          exfalso
          rw [LiesIn, ← whole, labels_dot, List.suffix_append_self_iff] at lies
          have ends : (labels domain.toList).getLast? = .some last := by
            obtain ⟨before, parts⟩ := lies
            rw [← parts]
            simp
          have inside : last ∈ (labels other.toList).dropLast := by
            rw [← whole, List.dropLast_append_of_ne_nil (labels_ne_nil host)]
            simp
          exact (domains_apart domain known other listed).2.2 last ends inside
  · rintro ⟨other, listed, front, whole⟩
    refine ⟨other, listed, labels domain.toList ++ front, ?_⟩
    rw [labels_dot, ← whole, List.append_assoc]

/-! ## Hosts as clients write them -/

/-- The name of a host ends with the first colon, or with the host. -/
theorem normalizeHost_cut {host name rest : List Char}
    (lower : Text.lower (Text.trim host) = name ++ rest) (portless : ':' ∉ name)
    (unbracketed : name.head? ≠ some '[') (cut : rest = [] ∨ rest.head? = some ':') :
    normalizeHost host = name := by
  have plain : (name ++ rest).head? ≠ some '[' := by
    cases name with
    | nil => rcases cut with rfl | colon <;> simp [*]
    | cons c name => exact unbracketed
  have whole : (name ++ rest).takeWhile (· ≠ ':') = name := by
    have all : ∀ c ∈ name, decide (c ≠ ':') = true := by
      intro c member
      exact decide_eq_true fun colon => portless (colon ▸ member)
    rw [List.takeWhile_append_of_pos all]
    rcases cut with rfl | colon
    · exact List.append_nil _
    · obtain ⟨behind, rfl⟩ := List.head?_eq_some_iff.mp colon
      exact List.append_nil _
  unfold normalizeHost
  rw [lower]
  split
  · rename_i inner bracket
    rw [bracket] at plain
    exact absurd rfl plain
  · exact whole

theorem normalizeHost_bracketed {host rest : List Char}
    (bracket : Text.lower (Text.trim host) = '[' :: rest) (closed : ']' ∈ rest) :
    normalizeHost host = '[' :: rest.takeWhile (· ≠ ']') ++ [']'] := by
  simp only [normalizeHost, bracket, List.contains_iff_mem, closed, if_true]

/-- A name in ASCII, without blanks around it and without a port, that is no address in
    brackets. -/
structure IsBare (host : List Char) : Prop where
  ascii : ∀ c ∈ host, c.toNat < 0x80
  portless : ':' ∉ host
  unbracketed : host.head? ≠ some '['
  trimmed : Text.trim host = host

/-- A text that writes a host in some case, with blanks around it or without, and perhaps with a
    colon and anything at all behind it. -/
def Spells (text host : List Char) : Prop :=
  ∃ before spelled port behind, text = before ++ (spelled ++ port) ++ behind ∧
    (∀ c ∈ before, Text.isBlank c = true) ∧ (∀ c ∈ behind, Text.isBlank c = true) ∧
    spelled.map Char.toLower = host.map Char.toLower ∧ (port = [] ∨ port.head? = some ':')

/-- A host is bare in whatever case it is written. -/
theorem IsBare.respelled {host spelled : List Char} (h : IsBare host)
    (same : spelled.map Char.toLower = host.map Char.toLower) : IsBare spelled := by
  have lowered : ∀ c ∈ spelled, c.toLower ∈ host.map Char.toLower := fun c member =>
    same ▸ List.mem_map_of_mem member
  refine ⟨?_, ?_, ?_, ?_⟩
  · intro c member
    obtain ⟨d, given, alike⟩ := List.mem_map.mp (lowered c member)
    have low := h.ascii d given
    rcases Text.toLower_cases c with own | ⟨_, high, _⟩
    · rw [← own, ← alike]
      rcases Text.toLower_cases d with other | ⟨_, high, moved⟩
      · rwa [other]
      · omega
    · omega
  · intro colon
    exact h.portless (Text.mem_of_map_toLower (lowered ':' colon) (by decide))
  · intro bracket
    have first : (host.map Char.toLower).head? = some '[' := by
      rw [← same, List.head?_map, bracket]
      rfl
    exact h.unbracketed (Text.head?_of_map_toLower first (by decide))
  · have trimmed := Text.trim_toLower spelled
    rw [same, Text.trim_toLower, h.trimmed, ← same] at trimmed
    have size : (Text.trim spelled).length = spelled.length := by
      simpa using (congrArg List.length trimmed).symm
    exact (Text.dropEnds_inside Text.isBlank spelled).eq_of_length size

/-- Lower case is made of a bare host before anything that is written behind it. -/
theorem IsBare.lowered {host : List Char} (h : IsBare host) {port : List Char}
    (cut : port = [] ∨ port.head? = some ':') :
    ∃ rest, Text.lower (Text.trim (host ++ port)) = host.map Char.toLower ++ rest ∧
      (rest = [] ∨ rest.head? = some ':') := by
  rcases cut with rfl | colon
  · refine ⟨[], ?_, .inl rfl⟩
    rw [List.append_nil, List.append_nil, h.trimmed, Text.lower_ascii h.ascii]
  · obtain ⟨behind, rfl⟩ := List.head?_eq_some_iff.mp colon
    have ascii : ∀ c ∈ host ++ [':'], c.toNat < 0x80 := by
      intro c member
      rcases List.mem_append.mp member with own | mark
      · exact h.ascii c own
      · obtain rfl := List.mem_singleton.mp mark
        decide
    have kept := Text.dropWhile_of_dropEnds h.trimmed
    refine ⟨':' :: Text.lowerAfter (host ++ [':']).reverse (behind.rdropWhile Text.isBlank), ?_,
      .inr rfl⟩
    rw [Text.trim, Text.dropEnds_through kept (by decide), List.append_cons,
      Text.lower_append ascii, List.map_append, List.append_assoc]
    rfl

/-- Whatever a client writes around a bare host, the host is known by its name in lower case. -/
theorem normalizeHost_spelled {text host : List Char} (bare : IsBare host)
    (spells : Spells text host) : normalizeHost text = host.map Char.toLower := by
  obtain ⟨before, spelled, port, behind, rfl, front, back, same, cut⟩ := spells
  have own := bare.respelled same
  obtain ⟨rest, lower, ends⟩ := own.lowered cut
  have padded : Text.trim (before ++ (spelled ++ port) ++ behind) = Text.trim (spelled ++ port) :=
    Text.dropEnds_padded front back _
  rw [← padded, same] at lower
  refine normalizeHost_cut lower ?_ ?_ ends
  · exact fun colon => bare.portless (Text.mem_of_map_toLower colon (by decide))
  · exact fun bracket => bare.unbracketed (Text.head?_of_map_toLower bracket (by decide))

theorem spells_self (host : List Char) : Spells host host :=
  ⟨[], host, [], [], by simp, by simp, by simp, rfl, .inl rfl⟩

theorem isStorageHost_spelled {text host : List Char} (bare : IsBare host)
    (spells : Spells text host) : isStorageHost text = isStorageHost host := by
  simp only [isStorageHost, normalizeHost_spelled bare spells,
    normalizeHost_spelled bare (spells_self host)]

theorem LiesIn.suffix {host domain : List Char} (h : LiesIn host domain) : domain <:+ host := by
  have ends := inDomain_iff.mpr h
  rw [inDomain, Bool.or_eq_true, beq_iff_eq, List.isSuffixOf_iff_suffix] at ends
  rcases ends with rfl | below
  · exact List.suffix_refl _
  · exact (List.suffix_cons '.' domain).trans below

theorem storage_last {host : List Char} (h : IsStorage host) : host.getLast? ≠ some ']' := by
  have letters : ∀ domain ∈ storageDomains, ∃ c, domain.toList.getLast? = some c ∧ c ≠ ']' := by
    simp [storageDomains]
  obtain ⟨domain, known, lies⟩ := h
  obtain ⟨before, rfl⟩ := lies.suffix
  obtain ⟨c, last, other⟩ := letters domain known
  rw [List.getLast?_append, last]
  simpa using other

/-- No name is read out of brackets, whatever stands behind them. -/
theorem isStorageHost_bracketed {before : List Char} (front : ∀ c ∈ before, Text.isBlank c = true)
    (inner behind : List Char) :
    isStorageHost (before ++ ('[' :: inner ++ ']' :: behind)) = false := by
  have kept : ('[' :: inner).dropWhile Text.isBlank = '[' :: inner :=
    List.dropWhile_cons_of_neg (by decide)
  have padded := Text.dropEnds_padded front (by simp : ∀ c ∈ [], Text.isBlank c = true)
    ('[' :: inner ++ ']' :: behind)
  rw [List.append_nil, Text.dropEnds_through kept (by decide)] at padded
  have lower : Text.lower (Text.trim (before ++ ('[' :: inner ++ ']' :: behind))) =
      '[' :: Text.lowerAfter ['['] (inner ++ ']' :: behind.rdropWhile Text.isBlank) := by
    rw [Text.trim, padded]
    exact Text.lower_append (s := ['[']) (by simp) _
  have closed : ']' ∈ Text.lowerAfter ['['] (inner ++ ']' :: behind.rdropWhile Text.isBlank) :=
    Text.mem_lowerAfter (c := ']') (by simp) (by decide) _
  rw [← Bool.not_eq_true, isStorageHost_iff, normalizeHost_bracketed lower closed]
  exact fun storage => storage_last storage List.getLast?_concat

/-! ## Storage hosts and downloads -/

theorem classify_download_iff {method host path : String} :
    classify method host path = some .download ↔
      Text.upper method.toList = "GET".toList ∧ isStorageHost host.toList = true := by
  unfold classify
  dsimp only
  split
  · rename_i asked
    simpa using asked
  · rename_i unasked
    simp only [Bool.and_eq_true, decide_eq_true_eq] at unasked
    simp only [unasked, iff_false]
    split <;> simp

/-- A host is known as storage by its last labels, and neither by the text that it ends with nor by
    what it begins with. How a bare host is spelled, and what stands around it, changes nothing; no
    address in brackets is storage. A request is a download exactly if it gets something from
    storage, on whatever path. -/
theorem storage_known_by_labels :
    (∀ host, isStorageHost host = true ↔
      ∃ domain ∈ storageDomains, labels domain.toList <:+ labels (normalizeHost host)) ∧
    (∀ domain ∈ storageDomains, IsStorage domain.toList ∧
      (∀ sub, IsStorage (sub ++ '.' :: domain.toList)) ∧
      (∀ front, front ≠ [] → front.getLast? ≠ some '.' → ¬ IsStorage (front ++ domain.toList)) ∧
      ∀ other, IsStorage (domain.toList ++ '.' :: other) ↔ IsStorage other) ∧
    (∀ host, IsBare host → ∀ text, Spells text host →
      isStorageHost text = isStorageHost host) ∧
    (∀ before inner behind, (∀ c ∈ before, Text.isBlank c = true) →
      isStorageHost (before ++ ('[' :: inner ++ ']' :: behind)) = false) ∧
    ∀ method host path, classify method host path = some .download ↔
      Text.upper method.toList = "GET".toList ∧ IsStorage (normalizeHost host.toList) := by
  refine ⟨fun _ => isStorageHost_iff, ?_, ?_, ?_, ?_⟩
  · intro domain known
    exact ⟨⟨domain, known, List.suffix_refl _⟩, storage_subdomain known,
      fun _ => storage_longer_label known, storage_followed known⟩
  · intro host bare text spells
    exact isStorageHost_spelled bare spells
  · intro before inner behind front
    exact isStorageHost_bracketed front inner behind
  · intro method host path
    rw [classify_download_iff, isStorageHost_iff]

/-- A bucket is known in capitals and with a port; what merely ends as its domain does is not, and
    neither is an address. -/
theorem storage_known_by_labels_bucket :
    let bucket := "bucket.s3.amazonaws.com".toList
    let text := " Bucket.S3.AmazonAWS.com:443\t".toList
    "s3.amazonaws.com" ∈ storageDomains ∧ "not-".toList ≠ [] ∧ "not-".toList.getLast? ≠ some '.' ∧
      ¬ IsStorage ("not-".toList ++ "s3.amazonaws.com".toList) ∧ IsBare bucket ∧
      Spells text bucket ∧ isStorageHost text = isStorageHost bucket ∧
      (∀ c ∈ " ".toList, Text.isBlank c = true) ∧
      isStorageHost (" ".toList ++ ('[' :: "::1".toList ++ ']' :: ".s3.amazonaws.com".toList)) =
        false := by
  intro bucket text
  have known : "s3.amazonaws.com" ∈ storageDomains := by decide
  have longer : "not-".toList ≠ [] := by decide
  have undotted : "not-".toList.getLast? ≠ some '.' := by decide
  have bare : IsBare bucket := ⟨by simp [bucket], by decide, by decide, by decide +kernel⟩
  have spells : Spells text bucket :=
    ⟨" ".toList, "Bucket.S3.AmazonAWS.com".toList, ":443".toList, "\t".toList, by decide,
      List.all_eq_true.mp (by decide), List.all_eq_true.mp (by decide), by decide, .inr rfl⟩
  have front : ∀ c ∈ " ".toList, Text.isBlank c = true := List.all_eq_true.mp (by decide)
  obtain ⟨_, domains, spelled, bracketed, _⟩ := storage_known_by_labels
  exact ⟨known, longer, undotted, (domains _ known).2.2.1 _ longer undotted, bare, spells,
    spelled bucket bare text spells, front, bracketed _ _ _ front⟩

end Faultline.Traffic
