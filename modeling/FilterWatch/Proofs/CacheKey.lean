import FilterWatch.Proofs.Failover
import FilterWatch.Proofs.Labels

/-!
# What a cache key tells apart

A key is read back at its colons. A valid domain has none, and neither has the code of a record type, so the first
colon of a key ends the domain and the last one begins the type. Between them stand an address and a keyword that may
have colons of their own: two resolvers share a key when a part of the keyword moves over to the address. Keywords
without colons are told apart (`eq_of_cacheKey_eq`).
-/

namespace FilterWatch
open Text

/-! ### Reading a key back -/

theorem colon_notMem_of_isValidDomain {domain : String} (h : isValidDomain domain) : ':' ∉ domain.toList := by
  intro hc
  rcases isLabelChar_of_isValidDomain h hc with hc | hc
  · revert hc; decide
  · revert hc; decide

namespace RecordType

theorem mem_all (t : RecordType) : t ∈ all := by cases t <;> decide

def codeText (t : RecordType) : String := toString t.code.toNat

theorem colon_notMem_codeText (t : RecordType) : ':' ∉ t.codeText.toList := by
  have : ∀ t ∈ all, ':' ∉ t.codeText.toList := by decide
  exact this t t.mem_all

theorem codeText_inj {s t : RecordType} (h : s.codeText = t.codeText) : s = t := by
  have : ∀ s ∈ all, ∀ t ∈ all, s.codeText = t.codeText → s = t := by decide
  exact this s s.mem_all t t.mem_all h

end RecordType

/-- What stands in a key between the domain and the type. -/
def Resolver.inKey (r : Resolver) : List Char := r.address.toList ++ ':' :: r.keyword.toList

theorem toList_cacheKey (domain : String) (r : Resolver) :
    (cacheKey domain r).toList = domain.toList ++ ':' :: (r.inKey ++ ':' :: r.recordType.codeText.toList) := by
  simp [cacheKey, Resolver.inKey, RecordType.codeText]

variable {d₁ d₂ : String} {r₁ r₂ : Resolver}

theorem cacheKey_eq_cacheKey (h₁ : isValidDomain d₁) (h₂ : isValidDomain d₂) :
    cacheKey d₁ r₁ = cacheKey d₂ r₂ ↔ d₁ = d₂ ∧ r₁.recordType = r₂.recordType ∧ r₁.inKey = r₂.inKey := by
  rw [← String.toList_inj, toList_cacheKey, toList_cacheKey]
  constructor
  · intro h
    have hcut := congrArg (cut ':') h
    rw [cut_append (colon_notMem_of_isValidDomain h₁), cut_append (colon_notMem_of_isValidDomain h₂),
      Prod.mk.injEq, Option.some.injEq] at hcut
    obtain ⟨hd, hrest⟩ := hcut
    have hlast := congrArg (cutLast ':') hrest
    rw [cutLast_append (RecordType.colon_notMem_codeText _), cutLast_append (RecordType.colon_notMem_codeText _),
      Option.some.injEq, Prod.mk.injEq, String.toList_inj] at hlast
    exact ⟨String.toList_inj.mp hd, RecordType.codeText_inj hlast.2, hlast.1⟩
  · rintro ⟨rfl, htype, hin⟩
    rw [htype, hin]

theorem eq_of_cacheKey_eq (h₁ : isValidDomain d₁) (h₂ : isValidDomain d₂) (hk₁ : ':' ∉ r₁.keyword.toList)
    (hk₂ : ':' ∉ r₂.keyword.toList) (h : cacheKey d₁ r₁ = cacheKey d₂ r₂) : d₁ = d₂ ∧ r₁ = r₂ := by
  obtain ⟨hd, htype, hin⟩ := (cacheKey_eq_cacheKey h₁ h₂).mp h
  have hlast := congrArg (cutLast ':') hin
  rw [Resolver.inKey, Resolver.inKey, cutLast_append hk₁, cutLast_append hk₂, Option.some.injEq, Prod.mk.injEq,
    String.toList_inj, String.toList_inj] at hlast
  cases r₁; cases r₂
  simp_all

/-- A resolver with new settings under its old address has a new key. -/
theorem eq_of_cacheKey_eq_of_address_eq (h₁ : isValidDomain d₁) (h₂ : isValidDomain d₂)
    (ha : r₁.address = r₂.address) (h : cacheKey d₁ r₁ = cacheKey d₂ r₂) : d₁ = d₂ ∧ r₁ = r₂ := by
  obtain ⟨hd, htype, hin⟩ := (cacheKey_eq_cacheKey h₁ h₂).mp h
  rw [Resolver.inKey, Resolver.inKey, ha, List.append_right_inj, List.cons.injEq, String.toList_inj] at hin
  cases r₁; cases r₂
  simp_all

/-- The resolvers differ in that the second one has the front of the keyword, up to a colon, in its address. -/
def Resolver.SlidesTo (r₁ r₂ : Resolver) : Prop :=
  ∃ part : String, r₂.address = r₁.address ++ ":" ++ part ∧ r₁.keyword = part ++ ":" ++ r₂.keyword

theorem Resolver.inKey_eq_iff : r₁.inKey = r₂.inKey ↔
    r₁.address = r₂.address ∧ r₁.keyword = r₂.keyword ∨ r₁.SlidesTo r₂ ∨ r₂.SlidesTo r₁ := by
  have hslide : ∀ {r s : Resolver} {part : List Char}, s.address.toList = r.address.toList ++ ':' :: part →
      r.keyword.toList = part ++ ':' :: s.keyword.toList → r.SlidesTo s := by
    intro r s part ha hk
    refine ⟨.ofList part, ?_, ?_⟩
    · rw [← String.toList_inj]; simp [ha]
    · rw [← String.toList_inj]; simp [hk]
  constructor
  · intro h
    rcases List.append_eq_append_iff.mp h with ⟨part, ha, hk⟩ | ⟨part, ha, hk⟩
    · cases part with
      | nil =>
        have ha : r₁.address.toList = r₂.address.toList := by simpa using ha.symm
        have hk : r₁.keyword.toList = r₂.keyword.toList := by simpa using hk
        exact .inl ⟨String.toList_inj.mp ha, String.toList_inj.mp hk⟩
      | cons c part =>
        obtain ⟨rfl, hk'⟩ := List.cons.inj hk
        exact .inr (.inl (hslide ha hk'))
    · cases part with
      | nil =>
        have ha : r₁.address.toList = r₂.address.toList := by simpa using ha
        have hk : r₁.keyword.toList = r₂.keyword.toList := by simpa using hk.symm
        exact .inl ⟨String.toList_inj.mp ha, String.toList_inj.mp hk⟩
      | cons c part =>
        obtain ⟨rfl, hk'⟩ := List.cons.inj hk
        exact .inr (.inr (hslide ha hk'))
  · rintro (⟨ha, hk⟩ | ⟨part, ha, hk⟩ | ⟨part, ha, hk⟩)
    · rw [inKey, inKey, ha, hk]
    · simp [inKey, ha, hk]
    · simp [inKey, ha, hk]

/-- Keys of valid domains are equal exactly when the domains and the record types are, and the addresses and keywords
are too or differ by a part of a keyword that has moved to the address. -/
theorem cacheKey_eq_iff (h₁ : isValidDomain d₁) (h₂ : isValidDomain d₂) :
    cacheKey d₁ r₁ = cacheKey d₂ r₂ ↔ d₁ = d₂ ∧ r₁.recordType = r₂.recordType ∧
      (r₁.address = r₂.address ∧ r₁.keyword = r₂.keyword ∨ r₁.SlidesTo r₂ ∨ r₂.SlidesTo r₁) := by
  rw [cacheKey_eq_cacheKey h₁ h₂, Resolver.inKey_eq_iff]

theorem cacheKey_eq_iff_moved_port : isValidDomain "example.com" ∧
    cacheKey "example.com" ⟨"10.0.0.1", "53:block", .a⟩ = cacheKey "example.com" ⟨"10.0.0.1:53", "block", .a⟩ :=
  ⟨by decide +kernel, (cacheKey_eq_iff (by decide +kernel) (by decide +kernel)).mpr
    ⟨rfl, rfl, .inr (.inl ⟨"53", rfl, rfl⟩)⟩⟩

/-- A network where every answer has a text record with these bytes. -/
def Network.answeringText (bytes : List UInt8) : Network := fun _ q _ =>
  .after 0 (.message { Dns.Message.answering q.question with answers := [⟨q.name, 60, .code 1, .txt [bytes]⟩] })

/-- Resolvers with another address and another keyword may share a key, and then one is served with the verdict of the
other: here a clear one, where its own is that the domain is blocked. -/
theorem cacheKey_collides :
    let net := Network.answeringText "block".toUTF8.toList
    let settings := { Config.default with resolvers := [⟨"10.0.0.1", "53:block", .a⟩] }
    let settings' := { Config.default with resolvers := [⟨"10.0.0.1:53", "block", .a⟩] }
    let first := (Checker.build settings none).checkOne net {} "example.com"
    let second := ((first.1.delete ["10.0.0.1"]).upsert settings'.resolvers).checkOne net {} "example.com"
    let fresh := (Checker.build settings' none).checkOne net {} "example.com"
    cacheKey "example.com" ⟨"10.0.0.1", "53:block", .a⟩ = cacheKey "example.com" ⟨"10.0.0.1:53", "block", .a⟩ ∧
      first.2 = .ok (.verdict "example.com" "10.0.0.1" false) ∧
      fresh.2 = .ok (.verdict "example.com" "10.0.0.1:53" true) ∧
      second.1.resolvers = settings'.resolvers ∧ second.2 = .ok (.verdict "example.com" "10.0.0.1" false) := by
  intro net settings settings' first second fresh
  have hfirst : first = (((Checker.build settings none).atOnce net {} "example.com").1,
      .ok (.verdict "example.com" "10.0.0.1" false)) := Checker.checkOne_of_atOnce (by decide) (by decide +kernel)
  have hfresh : fresh = (((Checker.build settings' none).atOnce net {} "example.com").1,
      .ok (.verdict "example.com" "10.0.0.1:53" true)) := Checker.checkOne_of_atOnce (by decide) (by decide +kernel)
  have hsecond : second =
      ((((first.1.delete ["10.0.0.1"]).upsert settings'.resolvers).atOnce net {} "example.com").1,
        .ok (.verdict "example.com" "10.0.0.1" false)) := by
    show Checker.checkOne _ _ _ _ = _
    rw [hfirst]
    exact Checker.checkOne_of_atOnce (by decide +kernel) (by decide +kernel)
  refine ⟨by decide, by rw [hfirst], by rw [hfresh], ?_, by rw [hsecond]⟩
  rw [hsecond, hfirst]
  decide +kernel

end FilterWatch
