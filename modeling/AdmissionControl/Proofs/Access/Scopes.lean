import AdmissionControl.Proofs.Access.Vouched
import AdmissionControl.Proofs.Json.Members
import AdmissionControl.Proofs.Text.Words
import Mathlib.Logic.Relation

namespace AdmissionControl.Access

open Http Json Text

section Required

-- The setting that names the scope for a method. Other methods have none.
inductive Governs (s : AccessSettings) (method : Method) : String → Prop
  | read (h : method = .get ∨ method = .head) : Governs s method s.scopeRead
  | write (h : method = .post ∨ method = .put ∨ method = .patch) : Governs s method s.scopeWrite
  | delete (h : method = .delete) : Governs s method s.scopeDelete

def Needs (s : AccessSettings) (method : Method) (scope : String) : Prop :=
  ∃ setting, Governs s method setting ∧ Core setting scope

-- The method has no scope, or one that is left blank.
def Exempt (s : AccessSettings) (method : Method) : Prop :=
  ∀ setting, Governs s method setting → ∀ c ∈ setting.toList, isBlank c = true

variable {s : AccessSettings} {method : Method} {setting scope : String}

theorem required_of_governs (h : Governs s method setting) :
    (ScopePolicy.ofSettings s).required method = nonBlank? setting := by
  unfold ScopePolicy.required ScopePolicy.ofSettings
  cases h with
  | read h => rw [if_pos h]
  | write h =>
      have hread : ¬(method = .get ∨ method = .head) := by
        rcases h with rfl | rfl | rfl <;> decide
      rw [if_neg hread, if_pos h]
  | delete h =>
      have hread : ¬(method = .get ∨ method = .head) := by
        rw [h]
        decide
      have hwrite : ¬(method = .post ∨ method = .put ∨ method = .patch) := by
        rw [h]
        decide
      rw [if_neg hread, if_neg hwrite, if_pos h]

theorem required_of_not_governs (h : ∀ setting, ¬Governs s method setting) :
    (ScopePolicy.ofSettings s).required method = none := by
  unfold ScopePolicy.required
  rw [if_neg fun hread => h _ (.read hread), if_neg fun hwrite => h _ (.write hwrite),
    if_neg fun hdelete => h _ (.delete hdelete)]

theorem required_eq_some_iff :
    (ScopePolicy.ofSettings s).required method = some scope ↔ Needs s method scope := by
  constructor
  · intro h
    by_cases hgoverns : ∃ setting, Governs s method setting
    · obtain ⟨setting, hsetting⟩ := hgoverns
      rw [required_of_governs hsetting] at h
      exact ⟨setting, hsetting, nonBlank?_eq_some_iff.mp h⟩
    · rw [required_of_not_governs (not_exists.mp hgoverns)] at h
      cases h
  · rintro ⟨setting, hsetting, hcore⟩
    rw [required_of_governs hsetting]
    exact nonBlank?_eq_some_iff.mpr hcore

theorem Needs.unique {other : String} (h : Needs s method scope) (h' : Needs s method other) :
    scope = other := by
  have hrequired := required_eq_some_iff.mpr h
  rw [required_eq_some_iff.mpr h'] at hrequired
  exact (Option.some.inj hrequired).symm

theorem exempt_iff_not_needs : Exempt s method ↔ ¬∃ scope, Needs s method scope := by
  constructor
  · rintro h ⟨scope, setting, hsetting, hcore⟩
    have hnone := nonBlank?_eq_none_iff.mpr (h setting hsetting)
    rw [nonBlank?_eq_some_iff.mpr hcore] at hnone
    cases hnone
  · intro h setting hsetting
    apply nonBlank?_eq_none_iff.mp
    rw [Option.eq_none_iff_forall_ne_some]
    intro scope hscope
    exact h ⟨scope, setting, hsetting, nonBlank?_eq_some_iff.mp hscope⟩

theorem adminRole_eq_some_iff {role : String} :
    (ScopePolicy.ofSettings s).adminRole = some role ↔ Core s.adminRole role := by
  simp only [ScopePolicy.ofSettings, nonBlank?_eq_some_iff]

end Required

namespace Claims

-- The names in the value of a claim.
inductive Holds (key : String) : Json → String → Prop
  | word {text name : String} (hkey : key = "scope") (h : Word text.toList name.toList) :
      Holds key (.string text) name
  | text {text name : String} (hkey : key ≠ "scope") (h : Core text name) :
      Holds key (.string text) name
  | item {items : List Json} {text name : String} (hitem : .string text ∈ items)
      (h : Core text name) : Holds key (.array items) name

def Has (keys : List String) (claims : Claims) (name : String) : Prop :=
  ∃ key ∈ keys, ∃ value, Members.get? key claims = some value ∧ Holds key value name

variable {key name : String} {keys names : List String} {claims more : Claims}

theorem nonBlankItem_iff {item : Json} :
    item.text?.bind nonBlank? = some name ↔ ∃ text, item = .string text ∧ Core text name := by
  cases item <;> simp [text?, nonBlank?_eq_some_iff]

theorem mem_names_iff {value : Json} : name ∈ Claims.names key value ↔ Holds key value name := by
  constructor
  · intro h
    cases value with
    | string text =>
        by_cases hkey : key = "scope"
        · simp only [Claims.names, if_pos hkey, List.mem_map] at h
          obtain ⟨word, hword, rfl⟩ := h
          rw [← String.toList_ofList (l := word), mem_words_iff] at hword
          exact .word hkey hword
        · simp only [Claims.names, if_neg hkey, Option.mem_toList] at h
          exact .text hkey (nonBlank?_eq_some_iff.mp h)
    | array items =>
        simp only [Claims.names, nonBlankItems, List.mem_filterMap] at h
        obtain ⟨item, hitem, hname⟩ := h
        obtain ⟨text, rfl, hcore⟩ := nonBlankItem_iff.mp hname
        exact .item hitem hcore
    | _ => cases h
  · intro h
    cases h with
    | word hkey h =>
        simp only [Claims.names, if_pos hkey, List.mem_map]
        exact ⟨_, mem_words_iff.mpr h, String.ofList_toList⟩
    | text hkey h =>
        simp only [Claims.names, if_neg hkey, Option.mem_toList]
        exact nonBlank?_eq_some_iff.mpr h
    | item hitem h =>
        simp only [Claims.names, nonBlankItems, List.mem_filterMap]
        exact ⟨_, hitem, nonBlankItem_iff.mpr ⟨_, rfl, h⟩⟩

theorem mem_namesUnder_iff : name ∈ namesUnder keys claims ↔ Has keys claims name := by
  simp only [namesUnder, List.mem_flatMap, Has]
  refine exists_congr fun key => and_congr_right fun _ => ?_
  cases Members.get? key claims with
  | none => simp
  | some value => simp [mem_names_iff]

section Grows

-- One claim says at least what it said before, or there is one claim more.
inductive Grows (claims : Claims) : Claims → Prop
  | words {text longer : String} (hclaim : Members.get? "scope" claims = some (.string text))
      (hlonger : ∀ word, Word text.toList word → Word longer.toList word) :
      Grows claims (Members.put "scope" (.string longer) claims)
  | items {key : String} {items longer : List Json}
      (hclaim : Members.get? key claims = some (.array items)) (hlonger : items ⊆ longer) :
      Grows claims (Members.put key (.array longer) claims)
  | claim {key : String} (hnew : Members.get? key claims = none) (value : Json) :
      Grows claims (Members.put key value claims)

theorem Has.put {value : Json}
    (hvalue : ∀ held, Members.get? key claims = some held →
      ∀ name, Holds key held name → Holds key value name)
    (h : Has keys claims name) : Has keys (Members.put key value claims) name := by
  obtain ⟨other, hother, held, hheld, hname⟩ := h
  by_cases hkey : other = key
  · subst hkey
    exact ⟨other, hother, value, by rw [get?_put, if_pos rfl], hvalue held hheld name hname⟩
  · exact ⟨other, hother, held, by rw [get?_put, if_neg hkey, hheld], hname⟩

theorem Has.grows (h : Has keys claims name) (hgrows : Grows claims more) :
    Has keys more name := by
  cases hgrows with
  | words hclaim hlonger =>
      refine h.put fun held hheld name hname => ?_
      rw [hclaim] at hheld
      obtain rfl := Option.some.inj hheld
      cases hname with
      | word _ hword => exact .word rfl (hlonger _ hword)
      | text hkey _ => exact absurd rfl hkey
  | items hclaim hlonger =>
      refine h.put fun held hheld name hname => ?_
      rw [hclaim] at hheld
      obtain rfl := Option.some.inj hheld
      cases hname with
      | item hitem hcore => exact .item (hlonger hitem) hcore
  | claim hnew value =>
      refine h.put fun held hheld name hname => ?_
      rw [hnew] at hheld
      cases hheld

theorem Has.grown (h : Has keys claims name) (hgrown : Relation.ReflTransGen Grows claims more) :
    Has keys more name := by
  induction hgrown with
  | refl => exact h
  | tail _ hstep ih => exact ih.grows hstep

end Grows

section Without

-- The value of a claim without these names.
def strip (names : List String) (key : String) : Json → Json
  | .string text =>
    if key = "scope" then
      .string (.ofList ([' '].intercalate
        ((words text.toList).filter fun word => String.ofList word ∉ names)))
    else if (nonBlank? text).any (· ∈ names) then .null
    else .string text
  | .array items => .array (items.filter fun item => !(item.text?.bind nonBlank?).any (· ∈ names))
  | value => value

def without (names : List String) (claims : Claims) : Claims :=
  claims.map fun (key, value) => (key, strip names key value)

theorem get?_without :
    Members.get? key (without names claims) = (Members.get? key claims).map (strip names key) := by
  induction claims with
  | nil => rfl
  | cons claim claims ih =>
      obtain ⟨other, value⟩ := claim
      rw [without, List.map_cons, get?_cons, get?_cons]
      split
      · rename_i hkey
        rw [hkey]
        rfl
      · exact ih

theorem names_strip_words (text : String) :
    Claims.names "scope" (strip names "scope" (.string text)) =
      (Claims.names "scope" (.string text)).filter (· ∉ names) := by
  have hpieces : ∀ piece ∈ (words text.toList).filter fun word => String.ofList word ∉ names,
      piece ≠ [] ∧ ∀ c ∈ piece, isBlank c = false := by
    intro piece hpiece
    have hword := mem_words_iff.mp (List.mem_of_mem_filter hpiece)
    exact ⟨hword.nonempty, hword.solid⟩
  simp only [Claims.names, strip, if_true, String.toList_ofList, words_intercalate hpieces,
    List.filter_map]
  rfl

theorem names_strip_text (hkey : key ≠ "scope") (text : String) :
    Claims.names key (strip names key (.string text)) =
      (Claims.names key (.string text)).filter (· ∉ names) := by
  simp only [Claims.names, strip, if_neg hkey]
  cases htext : nonBlank? text with
  | none => simp [htext]
  | some name =>
      by_cases hname : name ∈ names
      · simp [hname]
      · simp [hname, htext]

theorem names_strip_items (items : List Json) :
    Claims.names key (strip names key (.array items)) =
      (Claims.names key (.array items)).filter (· ∉ names) := by
  simp only [Claims.names, strip, nonBlankItems, List.filterMap_filter, List.filter_filterMap]
  apply List.filterMap_congr
  intro item _
  cases hitem : item.text?.bind nonBlank? with
  | none => simp
  | some name =>
      by_cases hname : name ∈ names
      · simp [hname, Option.filter]
      · simp [hname, Option.filter]

theorem names_strip (value : Json) :
    Claims.names key (strip names key value) = (Claims.names key value).filter (· ∉ names) := by
  cases value with
  | string text =>
      by_cases hkey : key = "scope"
      · rw [hkey]
        exact names_strip_words text
      · exact names_strip_text hkey text
  | array items => exact names_strip_items items
  | _ => rfl

-- These names are gone, and all others are as they were.
theorem has_without_iff :
    Has keys (without names claims) name ↔ Has keys claims name ∧ name ∉ names := by
  simp only [Has, get?_without, Option.map_eq_some_iff]
  constructor
  · rintro ⟨key, hkey, _, ⟨value, hvalue, rfl⟩, hname⟩
    rw [← mem_names_iff, names_strip, List.mem_filter, mem_names_iff, decide_eq_true_iff] at hname
    exact ⟨⟨key, hkey, value, hvalue, hname.1⟩, hname.2⟩
  · rintro ⟨⟨key, hkey, value, hvalue, hname⟩, hnot⟩
    refine ⟨key, hkey, _, ⟨value, hvalue, rfl⟩, ?_⟩
    rw [← mem_names_iff, names_strip, List.mem_filter, mem_names_iff, decide_eq_true_iff]
    exact ⟨hname, hnot⟩

end Without

end Claims

open Claims

-- The claims of an administrator, or of someone who has the scope.
def Suffices (s : AccessSettings) (method : Method) (claims : Claims) : Prop :=
  Exempt s method ∨ (∃ role, Core s.adminRole role ∧ Has ["role", "roles"] claims role) ∨
    ∃ scope, Needs s method scope ∧ Has ["scope", "scopes"] claims scope

namespace ScopePolicy

variable {s : AccessSettings} {method : Method} {claims more : Claims}

theorem grants_iff : (ofSettings s).Grants method claims ↔ Suffices s method claims := by
  unfold Grants Suffices
  simp only [required_eq_some_iff, adminRole_eq_some_iff, roles, scopes, mem_namesUnder_iff]
  constructor
  · intro h
    by_cases hneeds : ∃ scope, Needs s method scope
    · obtain ⟨scope, hscope⟩ := hneeds
      rcases h scope hscope with hrole | hheld
      · exact Or.inr (Or.inl hrole)
      · exact Or.inr (Or.inr ⟨scope, hscope, hheld⟩)
    · exact Or.inl (exempt_iff_not_needs.mpr hneeds)
  · rintro (hexempt | hrole | ⟨other, hother, hheld⟩) scope hscope
    · exact absurd ⟨scope, hscope⟩ (exempt_iff_not_needs.mp hexempt)
    · exact Or.inl hrole
    · exact Or.inr (hscope.unique hother ▸ hheld)

theorem authorize_eq_ok_iff :
    (ofSettings s).authorize method claims = .ok () ↔ Suffices s method claims := by
  rw [← grants_iff, ← allows_iff, authorize]
  split <;> simp_all

theorem authorize_eq_forbidden_iff :
    (ofSettings s).authorize method claims = .error .forbidden ↔ ¬Suffices s method claims := by
  rw [← grants_iff, ← allows_iff, authorize]
  split <;> simp_all

end ScopePolicy

theorem Suffices.grown {s : AccessSettings} {method : Method} {claims more : Claims}
    (h : Suffices s method claims) (hgrown : Relation.ReflTransGen Grows claims more) :
    Suffices s method more := by
  rcases h with hexempt | ⟨role, hrole, hheld⟩ | ⟨scope, hscope, hheld⟩
  · exact Or.inl hexempt
  · exact Or.inr (Or.inl ⟨role, hrole, hheld.grown hgrown⟩)
  · exact Or.inr (Or.inr ⟨scope, hscope, hheld.grown hgrown⟩)

-- A decision goes by the values that the claims hold. It does not turn when they hold more, and
-- without the names that matter none but an exempt method is left.
theorem authorize_exact_and_monotone (s : AccessSettings) (method : Method) (claims : Claims) :
    let policy := ScopePolicy.ofSettings s
    (policy.authorize method claims = .ok () ↔
      Exempt s method ∨ (∃ role, Core s.adminRole role ∧ Has ["role", "roles"] claims role) ∨
        ∃ scope, Needs s method scope ∧ Has ["scope", "scopes"] claims scope) ∧
    (policy.authorize method claims ≠ .ok () →
      policy.authorize method claims = .error .forbidden) ∧
    (∀ more, Relation.ReflTransGen Grows claims more →
      policy.authorize method claims = .ok () → policy.authorize method more = .ok ()) ∧
    (∀ names, ¬Exempt s method → (∀ scope, Needs s method scope → scope ∈ names) →
      (∀ role, Core s.adminRole role → role ∈ names) →
      policy.authorize method (without names claims) = .error .forbidden) ∧
    ∀ names keys name,
      Has keys (without names claims) name ↔ Has keys claims name ∧ name ∉ names := by
  intro policy
  refine ⟨ScopePolicy.authorize_eq_ok_iff, fun hnot => ?_, fun more hgrown hok => ?_,
    fun names hneeds hscopes hroles => ?_, fun names keys name => has_without_iff⟩
  · apply ScopePolicy.authorize_eq_forbidden_iff.mpr
    exact fun h => hnot (ScopePolicy.authorize_eq_ok_iff.mpr h)
  · have hbefore := ScopePolicy.authorize_eq_ok_iff.mp hok
    exact ScopePolicy.authorize_eq_ok_iff.mpr (hbefore.grown hgrown)
  · apply ScopePolicy.authorize_eq_forbidden_iff.mpr
    rintro (hexempt | ⟨role, hrole, hheld⟩ | ⟨scope, hscope, hheld⟩)
    · exact hneeds hexempt
    · exact (has_without_iff.mp hheld).2 (hroles role hrole)
    · exact (has_without_iff.mp hheld).2 (hscopes scope hscope)

def keeperClaims : Claims :=
  [("roles", .array [.string "editor"]), ("scope", .string "archive:read archive:delete")]

theorem authorize_exact_and_monotone_of_keeper :
    let policy := ScopePolicy.ofSettings {}
    policy.authorize .delete keeperClaims = .ok () ∧
    policy.authorize .delete (Members.put "roles" (.array [.null, .string "editor"]) keeperClaims) =
      .ok () ∧
    policy.authorize .delete (without ["archive:delete", "admin"] keeperClaims) =
      .error .forbidden := by
  intro policy
  obtain ⟨hexact, -, hmore, hfewer, -⟩ := authorize_exact_and_monotone {} .delete keeperClaims
  have hneeds : Needs {} .delete "archive:delete" := required_eq_some_iff.mp (by decide)
  have hadmin : Core ({} : AccessSettings).adminRole "admin" := adminRole_eq_some_iff.mp (by decide)
  have hhas : Has ["scope", "scopes"] keeperClaims "archive:delete" :=
    mem_namesUnder_iff.mp (by decide)
  have hok : policy.authorize .delete keeperClaims = .ok () :=
    hexact.mpr (Or.inr (Or.inr ⟨_, hneeds, hhas⟩))
  refine ⟨hok, hmore _ (.single (.items rfl (by simp))) hok, hfewer _ ?_ ?_ ?_⟩
  · exact fun hexempt => exempt_iff_not_needs.mp hexempt ⟨_, hneeds⟩
  · intro scope hscope
    rw [hscope.unique hneeds]
    exact List.mem_cons_self
  · intro role hrole
    rw [hrole.unique hadmin]
    exact List.mem_cons_of_mem _ List.mem_cons_self

end AdmissionControl.Access
