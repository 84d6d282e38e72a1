import FilterWatch.Proofs.IPAddresses
import FilterWatch.Proofs.Trimming

/-!
# Socket addresses read and written

Every socket address is read back from the text that it is written as (`ofChars?_render`). The last colon of such a text
stands in front of the port, and in front of that colon stands an IPv4 address or something in brackets (`exists_port`).
-/

namespace FilterWatch
open Text

/-! ### Ports -/

namespace Text
variable {bound : Nat} {cs : List Char}

theorem not_mem_of_unsigned? {d : Char} (hd : digit? 16 d = none) (hsign : d ≠ '+') (h : (unsigned? bound cs).isSome) :
    d ∉ cs := by
  intro hmem
  rcases of_unsigned? h d hmem with rfl | hdigit
  · exact hsign rfl
  · exact ne_of_isSome_digit? hd (by decide) hdigit rfl

theorem not_blank_of_unsigned? (h : (unsigned? bound cs).isSome) : ∀ c ∈ cs, isBlank c = false := by
  intro c hc
  rcases of_unsigned? h c hc with rfl | hdigit
  · decide
  · exact not_blank_of_isAddressChar (isAddressChar_of_digit (by decide) hdigit)

end Text

namespace SocketAddress
variable {cs : List Char} {p : UInt16}

theorem port?_toString (p : UInt16) : port? (toString p.toNat).toList = some p := by
  have hp : p.toNat < UInt16.size := p.toNat_lt
  simp [port?, number?_toDigits, Option.filter, hp]

theorem isSome_digit?_of_port? (h : port? cs = some p) : ∀ c ∈ cs, (digit? 10 c).isSome := by
  obtain ⟨n, hn, -⟩ := Option.map_eq_some_iff.mp h
  exact isSome_digit?_of_number? (Option.filter_eq_some_iff.mp hn).1

theorem not_mem_of_port? {d : Char} (hd : digit? 16 d = none) (h : port? cs = some p) : d ∉ cs :=
  fun hmem => ne_of_isSome_digit? hd (by decide) (isSome_digit?_of_port? h d hmem) rfl

theorem isSome_unsigned?_of_port? (h : port? cs = some p) : (unsigned? UInt16.size cs).isSome := by
  have hsign : '+' ∉ cs := not_mem_of_port? (by decide) h
  obtain ⟨n, hn, -⟩ := Option.map_eq_some_iff.mp h
  rw [unsigned?]
  · exact Option.isSome_of_eq_some hn
  · rintro rest rfl
    exact hsign (.head _)

end SocketAddress

/-! ### Socket addresses -/

namespace SocketAddress
variable {cs host port rest : List Char} {p : UInt16} {addr : SocketAddress}

theorem ofChars?_bracket (rest : List Char) : ofChars? ('[' :: rest) =
    match cut ']' rest with
    | (inside, some (':' :: port)) => do
      let (ip, scope) ← scoped? inside
      return .v6 ip scope (← port? port)
    | _ => none := rfl

theorem ofChars?_plain (h : cs.head? ≠ some '[') : ofChars? cs =
    match cut ':' cs with
    | (ip, some port) => do return .v4 (← IPv4.ofChars? ip) (← port? port)
    | (_, none) => none := by
  unfold ofChars?
  split
  · exact absurd rfl h
  · rfl

def renderScoped (ip : IPv6) (scope : UInt32) : String :=
  ip.render ++ if scope = 0 then "" else "%" ++ toString scope.toNat

theorem bracket_not_mem_renderScoped (ip : IPv6) (scope : UInt32) : ']' ∉ (renderScoped ip scope).toList := by
  have hip : ']' ∉ ip.render.toList := IP.not_mem (IP.ofChars?_render (.v6 ip)) rfl
  by_cases hscope : scope = 0
  · simpa [renderScoped, hscope] using hip
  · simpa [renderScoped, hscope] using ⟨hip, not_mem_toDigits (by decide) (by decide) (by decide) _⟩

theorem scoped?_renderScoped (ip : IPv6) (scope : UInt32) :
    scoped? (renderScoped ip scope).toList = some (ip, scope) := by
  have hip : '%' ∉ ip.render.toList := IP.not_mem (IP.ofChars?_render (.v6 ip)) rfl
  by_cases hscope : scope = 0
  · rw [renderScoped, if_pos hscope, String.append_empty, scoped?, cut_of_not_mem hip]
    simp [IPv6.ofChars?_render, hscope]
  · have hsize : scope.toNat < UInt32.size := scope.toNat_lt
    have htext : (ip.render ++ ("%" ++ toString scope.toNat)).toList =
        ip.render.toList ++ '%' :: Nat.toDigits 10 scope.toNat := by simp
    rw [renderScoped, if_neg hscope, htext, scoped?, cut_append hip]
    simp [IPv6.ofChars?_render, number?_toDigits, Option.filter, hsize]

theorem ofChars?_render (addr : SocketAddress) : ofChars? addr.render.toList = some addr := by
  cases addr with
  | v4 ip p =>
    have hip := IPv4.ofChars?_render ip
    have htext : (render (.v4 ip p)).toList = ip.render.toList ++ ':' :: (toString p.toNat).toList := by
      simp [render]
    have hchars : ∀ c ∈ ip.render.toList ++ ':' :: (toString p.toNat).toList, isAddressChar c := by
      simp only [List.forall_mem_append, List.forall_mem_cons]
      exact ⟨IPv4.forall_isAddressChar hip, rfl, fun c hc =>
        isAddressChar_of_digit (by decide) (isSome_digit?_of_port? (port?_toString p) c hc)⟩
    rw [htext, ofChars?_plain (head?_ne_bracket hchars), cut_append (IPv4.colon_not_mem hip)]
    simp only [hip, port?_toString]
    rfl
  | v6 ip scope p =>
    have htext : (render (.v6 ip scope p)).toList =
        '[' :: ((renderScoped ip scope).toList ++ ']' :: ':' :: (toString p.toNat).toList) := by
      simp [render, renderScoped]
    rw [htext, ofChars?_bracket, cut_append (bracket_not_mem_renderScoped ip scope)]
    simp only [scoped?_renderScoped, port?_toString]
    rfl

/-- In front of the port stands an IPv4 address or a bracket. -/
theorem exists_port (h : ofChars? cs = some addr) : ∃ host port p, cs = host ++ ':' :: port ∧
    port? port = some p ∧ (cs.head? = some '[' ∨ ∃ ip, IPv4.ofChars? host = some ip) := by
  by_cases hhead : cs.head? = some '['
  · obtain ⟨rest, rfl⟩ := List.head?_eq_some_iff.mp hhead
    rw [ofChars?_bracket] at h
    split at h
    · rename_i inside port hcut
      simp only [bind, Option.bind_eq_some_iff] at h
      obtain ⟨ip, -, p, hp, -⟩ := h
      refine ⟨'[' :: (inside ++ [']']), port, p, ?_, hp, .inl hhead⟩
      simp [(eq_of_cut hcut).1]
    · cases h
  · rw [ofChars?_plain hhead] at h
    split at h
    · rename_i host port hcut
      simp only [bind, Option.bind_eq_some_iff] at h
      obtain ⟨ip, hip, p, hp, -⟩ := h
      exact ⟨host, port, p, (eq_of_cut hcut).1, hp, .inr ⟨ip, hip⟩⟩
    · cases h

theorem isTrimmed (h : ofChars? cs = some addr) : IsTrimmed cs := by
  obtain ⟨host, port, p, rfl, hp, hfront⟩ := exists_port h
  have hlast : ∀ c ∈ ':' :: port, isBlank c = false :=
    List.forall_mem_cons.mpr ⟨by decide, not_blank_of_unsigned? (isSome_unsigned?_of_port? hp)⟩
  constructor
  · intro c hc
    rcases hfront with hhead | ⟨ip, hip⟩
    · rw [hhead] at hc
      cases hc
      decide
    · rw [List.head?_append] at hc
      rcases Option.or_eq_some_iff.mp hc with hc | ⟨-, hc⟩
      · exact not_blank_of_isAddressChar (IPv4.forall_isAddressChar hip c (List.mem_of_head? hc))
      · exact hlast c (List.mem_of_head? hc)
  · intro c hc
    rw [List.getLast?_append_of_ne_nil _ (by simp)] at hc
    exact hlast c (List.mem_of_getLast? hc)

end SocketAddress

end FilterWatch
