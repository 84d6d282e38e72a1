import FilterWatch.Proofs.SocketAddresses

/-!
# The default port

`withDefaultPort` leaves a text as it is when it has a port (`HasPort`), writes an IP address with port 53, and puts the
port behind anything else. Addresses of the documented forms get the port that they should have
(`withDefaultPort_completed`), and whatever the text is there is a port behind the last colon of the result. Completing
twice is completing once exactly for the texts that `GetsOnePort` describes; a text with colons in it that is neither an
address nor a host with a port gets one port after the other.
-/

namespace FilterWatch
open Text

variable {cs host port : List Char} {ip : IP} {addr : SocketAddress} {address : String}

/-! ### Texts with a port -/

theorem isHostWithPort_iff : isHostWithPort cs ↔ ∃ host port, cs = host ++ ':' :: port ∧ host ≠ [] ∧
    ':' ∉ host ∧ (unsigned? UInt16.size port).isSome := by
  constructor
  · intro h
    unfold isHostWithPort at h
    split at h
    · rename_i host port hcut
      simp only [Bool.and_eq_true, Bool.not_eq_true', List.isEmpty_eq_false_iff, List.contains_eq_mem,
        decide_eq_false_iff_not, and_assoc] at h
      exact ⟨host, port, (eq_of_cutLast hcut).1, h⟩
    · cases h
  · rintro ⟨host, port, rfl, hne, hhost, hport⟩
    rw [isHostWithPort, cutLast_append (not_mem_of_unsigned? (by decide) (by decide) hport)]
    simp [hne, hhost, hport]

/-- What is taken for an address that has its port. -/
def HasPort (cs : List Char) : Prop := (SocketAddress.ofChars? cs).isSome ∨ isHostWithPort cs

theorem hasPort_render (addr : SocketAddress) : HasPort addr.render.toList :=
  .inl (by rw [SocketAddress.ofChars?_render]; rfl)

theorem HasPort.exists_port (h : HasPort cs) : ∃ front port, cs = front ++ ':' :: port ∧
    (unsigned? UInt16.size port).isSome ∧ (cs.head? ≠ some '[' → front ≠ [] ∧ ':' ∉ front) := by
  rcases h with h | h
  · obtain ⟨addr, haddr⟩ := Option.isSome_iff_exists.mp h
    obtain ⟨front, port, p, hcs, hp, hfront⟩ := SocketAddress.exists_port haddr
    refine ⟨front, port, hcs, SocketAddress.isSome_unsigned?_of_port? hp, fun hhead => ?_⟩
    obtain ⟨ip, hip⟩ := hfront.resolve_left hhead
    exact ⟨List.ne_nil_of_mem (IPv4.dot_mem_of_ofChars? hip), IPv4.colon_not_mem hip⟩
  · obtain ⟨front, port, hcs, hne, hfront, hport⟩ := isHostWithPort_iff.mp h
    exact ⟨front, port, hcs, hport, fun _ => ⟨hne, hfront⟩⟩

theorem HasPort.count_colon (h : HasPort cs) (hhead : cs.head? ≠ some '[') : cs.count ':' = 1 := by
  obtain ⟨front, port, rfl, hport, hplain⟩ := h.exists_port
  rw [List.count_append, List.count_cons_self, List.count_eq_zero.mpr (hplain hhead).2,
    List.count_eq_zero.mpr (not_mem_of_unsigned? (by decide) (by decide) hport)]

theorem HasPort.getLast?_ne (h : HasPort cs) : cs.getLast? ≠ some ']' := by
  obtain ⟨front, port, rfl, hport, -⟩ := h.exists_port
  intro hlast
  rw [List.getLast?_append_of_ne_nil _ (by simp)] at hlast
  have hmem : ']' ∈ port := by simpa using List.mem_of_getLast? hlast
  exact not_mem_of_unsigned? (by decide) (by decide) hport hmem

/-! ### Completing an address -/

def unbracketed (cs : List Char) : List Char := dropTrailing (· == ']') (cs.dropWhile (· == '['))

theorem head?_unbracketed (cs : List Char) : (unbracketed cs).head? ≠ some '[' := by
  intro hhead
  exact absurd (of_head?_dropWhile (head?_dropTrailing hhead)) (by decide)

theorem count_unbracketed (cs : List Char) : (unbracketed cs).count ':' = cs.count ':' := by
  rw [unbracketed, count_dropTrailing (by decide), count_dropWhile (by decide)]

theorem unbracketed_eq_self (hopen : '[' ∉ cs) (hclose : ']' ∉ cs) : unbracketed cs = cs := by
  rw [unbracketed, dropWhile_eq_self fun c hc => beq_eq_false_iff_ne.mpr ?_,
    dropTrailing_eq_self fun c hc => beq_eq_false_iff_ne.mpr ?_]
  · rintro rfl
    exact hclose (List.mem_of_getLast? hc)
  · rintro rfl
    exact hopen (List.mem_of_head? hc)

theorem unbracketed_bracketed (hopen : '[' ∉ cs) (hclose : ']' ∉ cs) : unbracketed ('[' :: cs ++ [']']) = cs := by
  have hinside : (cs ++ [']']).dropWhile (· == '[') = cs ++ [']'] := by
    refine dropWhile_eq_self fun c hc => beq_eq_false_iff_ne.mpr ?_
    rintro rfl
    exact absurd (List.mem_of_head? hc) (by simpa using hopen)
  have hcs : dropTrailing (· == ']') cs = cs := by
    refine dropTrailing_eq_self fun c hc => beq_eq_false_iff_ne.mpr ?_
    rintro rfl
    exact hclose (List.mem_of_getLast? hc)
  rw [unbracketed, List.cons_append, List.dropWhile_cons_of_pos rfl, hinside, dropTrailing_append (by simp), hcs]

theorem withDefaultPort_of_hasPort (h : HasPort (trimmed address.toList)) :
    withDefaultPort address = .ofList (trimmed address.toList) := by
  rw [withDefaultPort]
  rcases h with h | h
  · exact if_pos h
  · -- there is one colon in the text, so there is no IP address in it
    obtain ⟨front, port, hcs, -, hfront, hport⟩ := isHostWithPort_iff.mp h
    have hcount : (unbracketed (trimmed address.toList)).count ':' = 1 := by
      rw [count_unbracketed, hcs, List.count_append, List.count_cons_self, List.count_eq_zero.mpr hfront,
        List.count_eq_zero.mpr (not_mem_of_unsigned? (by decide) (by decide) hport)]
    have hip : IP.ofChars? (unbracketed (trimmed address.toList)) = none :=
      Option.eq_none_iff_forall_ne_some.mpr fun ip hip => IP.count_colon_ne_one hip hcount
    rw [unbracketed] at hip
    simp [hip, h]

theorem withDefaultPort_of_ip (h : ¬ HasPort (trimmed address.toList))
    (hip : IP.ofChars? (unbracketed (trimmed address.toList)) = some ip) :
    withDefaultPort address = (ip.withPort defaultPort).render := by
  rw [HasPort, not_or] at h
  rw [unbracketed] at hip
  simp [withDefaultPort, h, hip]

theorem withDefaultPort_of_host (h : ¬ HasPort (trimmed address.toList))
    (hip : IP.ofChars? (unbracketed (trimmed address.toList)) = none) :
    withDefaultPort address = .ofList (unbracketed (trimmed address.toList)) ++ ":53" := by
  have hdefault : ":" ++ toString defaultPort.toNat = ":53" := by decide
  rw [HasPort, not_or] at h
  rw [unbracketed] at hip ⊢
  rw [← hdefault, ← String.append_assoc]
  simp [withDefaultPort, h, hip]

/-! ### Addresses of the documented forms -/

/-- A host name may have any characters but colons, brackets and blanks. -/
structure IsHost (cs : List Char) : Prop where
  ne_nil : cs ≠ []
  plain : ∀ c ∈ cs, c ≠ ':' ∧ c ≠ '[' ∧ c ≠ ']' ∧ isBlank c = false

instance : DecidablePred IsHost := fun cs =>
  decidable_of_iff (cs ≠ [] ∧ cs.all fun c => c ≠ ':' ∧ c ≠ '[' ∧ c ≠ ']' ∧ isBlank c = false)
    ⟨fun h => ⟨h.1, fun c hc => of_decide_eq_true (List.all_eq_true.mp h.2 c hc)⟩,
      fun h => ⟨h.ne_nil, List.all_eq_true.mpr fun c hc => decide_eq_true (h.plain c hc)⟩⟩

namespace IsHost

theorem not_mem {c : Char} (h : IsHost cs) (hc : c = ':' ∨ c = '[' ∨ c = ']') : c ∉ cs := by
  intro hmem
  obtain ⟨hcolon, hopen, hclose, -⟩ := h.plain c hmem
  rcases hc with rfl | rfl | rfl
  · exact hcolon rfl
  · exact hopen rfl
  · exact hclose rfl

theorem not_blank (h : IsHost cs) : ∀ c ∈ cs, isBlank c = false := fun c hc => (h.plain c hc).2.2.2

end IsHost

theorem ofChars?_withDefaultPort (h : ¬ HasPort (trimmed address.toList))
    (hip : IP.ofChars? (unbracketed (trimmed address.toList)) = some ip) :
    SocketAddress.ofChars? (withDefaultPort address).toList = some (ip.withPort 53) := by
  rw [withDefaultPort_of_ip h hip]
  exact SocketAddress.ofChars?_render _

theorem withDefaultPort_ip (h : IP.ofChars? cs = some ip) (htext : Surrounded cs address.toList) :
    SocketAddress.ofChars? (withDefaultPort address).toList = some (ip.withPort 53) := by
  have hchars := IP.forall_isAddressChar h
  have hcs : trimmed address.toList = cs :=
    htext.trimmed_eq (.of_forall fun c hc => not_blank_of_isAddressChar (hchars c hc))
  apply ofChars?_withDefaultPort
  · rw [hcs]
    exact fun hport => IP.count_colon_ne_one h (hport.count_colon (head?_ne_bracket hchars))
  · rwa [hcs, unbracketed_eq_self (IP.not_mem h rfl) (IP.not_mem h rfl)]

theorem withDefaultPort_bracketed (h : IP.ofChars? cs = some ip)
    (htext : Surrounded ('[' :: cs ++ [']']) address.toList) :
    SocketAddress.ofChars? (withDefaultPort address).toList = some (ip.withPort 53) := by
  have hlast : ('[' :: cs ++ [']']).getLast? = some ']' := List.getLast?_concat
  have hcs : trimmed address.toList = '[' :: cs ++ [']'] := by
    refine htext.trimmed_eq ⟨fun c hc => ?_, fun c hc => ?_⟩
    · rw [List.cons_append, List.head?_cons] at hc
      cases hc
      decide
    · rw [hlast] at hc
      cases hc
      decide
  apply ofChars?_withDefaultPort
  · rw [hcs]
    exact fun hport => hport.getLast?_ne hlast
  · rwa [hcs, unbracketed_bracketed (IP.not_mem h rfl) (IP.not_mem h rfl)]

theorem withDefaultPort_socket (h : SocketAddress.ofChars? cs = some addr) (htext : Surrounded cs address.toList) :
    withDefaultPort address = .ofList cs := by
  have hcs : trimmed address.toList = cs := htext.trimmed_eq (SocketAddress.isTrimmed h)
  rw [withDefaultPort_of_hasPort (.inl (by rw [hcs, h]; rfl)), hcs]

/-- A host that is an IPv4 address is written anew, but there is one way only to write it. -/
theorem withDefaultPort_host (h : IsHost host) (htext : Surrounded host address.toList) :
    withDefaultPort address = .ofList host ++ ":53" := by
  have hcs : trimmed address.toList = host := htext.trimmed_eq (.of_forall h.not_blank)
  have hcolon : ':' ∉ host := h.not_mem (.inl rfl)
  have hbare : unbracketed host = host := unbracketed_eq_self (h.not_mem (by simp)) (h.not_mem (by simp))
  have hport : ¬ HasPort host := by
    intro hport
    obtain ⟨front, port, rfl, -⟩ := hport.exists_port
    simp at hcolon
  cases hip : IP.ofChars? host with
  | some ip =>
    rw [withDefaultPort_of_ip (by rwa [hcs]) (by rw [hcs, hbare, hip])]
    rcases IP.ofChars?_cases hip with ⟨ip', rfl, hip'⟩ | ⟨ip', rfl, hip'⟩
    · rw [← IPv4.render_of_ofChars? hip', String.ofList_toList, IP.withPort, SocketAddress.render, String.append_assoc]
      rfl
    · have htwo := (IPv6.of_ofChars? hip').1
      rw [List.count_eq_zero.mpr hcolon] at htwo
      omega
  | none => rw [withDefaultPort_of_host (by rwa [hcs]) (by rw [hcs, hbare, hip]), hcs, hbare]

theorem withDefaultPort_hostWithPort (h : IsHost host) (hport : (unsigned? UInt16.size port).isSome)
    (htext : Surrounded (host ++ ':' :: port) address.toList) :
    withDefaultPort address = .ofList (host ++ ':' :: port) := by
  have hcs : trimmed address.toList = host ++ ':' :: port := by
    refine htext.trimmed_eq (.of_forall ?_)
    simp only [List.forall_mem_append, List.forall_mem_cons]
    exact ⟨h.not_blank, by decide, not_blank_of_unsigned? hport⟩
  have hhost : isHostWithPort (host ++ ':' :: port) :=
    isHostWithPort_iff.mpr ⟨host, port, rfl, h.ne_nil, h.not_mem (.inl rfl), hport⟩
  rw [withDefaultPort_of_hasPort (.inr (by rwa [hcs])), hcs]

/-- Whatever the text is, a port stands behind the last colon of what it is completed to. -/
theorem withDefaultPort_port (address : String) : ∃ front port,
    (withDefaultPort address).toList = front ++ ':' :: port ∧ (unsigned? UInt16.size port).isSome := by
  by_cases hport : HasPort (trimmed address.toList)
  · obtain ⟨front, port, htext, hp, -⟩ := hport.exists_port
    exact ⟨front, port, by rw [withDefaultPort_of_hasPort hport, String.toList_ofList, htext], hp⟩
  · cases hip : IP.ofChars? (unbracketed (trimmed address.toList)) with
    | some ip =>
      obtain ⟨front, port, htext, hp, -⟩ := (hasPort_render (ip.withPort defaultPort)).exists_port
      exact ⟨front, port, by rw [withDefaultPort_of_ip hport hip, htext], hp⟩
    | none =>
      refine ⟨unbracketed (trimmed address.toList), "53".toList, ?_, by decide⟩
      rw [withDefaultPort_of_host hport hip, String.toList_append, String.toList_ofList]
      rfl

/-- What becomes of addresses of the documented forms, and of any text. -/
structure Completed (address : String) : Prop where
  ip : ∀ {cs ip}, IP.ofChars? cs = some ip → Surrounded cs address.toList →
    SocketAddress.ofChars? (withDefaultPort address).toList = some (ip.withPort 53)
  bracketed : ∀ {cs ip}, IP.ofChars? cs = some ip → Surrounded ('[' :: cs ++ [']']) address.toList →
    SocketAddress.ofChars? (withDefaultPort address).toList = some (ip.withPort 53)
  socket : ∀ {cs addr}, SocketAddress.ofChars? cs = some addr → Surrounded cs address.toList →
    withDefaultPort address = .ofList cs
  host : ∀ {cs}, IsHost cs → Surrounded cs address.toList → withDefaultPort address = .ofList cs ++ ":53"
  hostWithPort : ∀ {host port}, IsHost host → (unsigned? UInt16.size port).isSome →
    Surrounded (host ++ ':' :: port) address.toList → withDefaultPort address = .ofList (host ++ ':' :: port)
  port : ∃ front port, cutLast ':' (withDefaultPort address).toList = some (front, port) ∧
    (unsigned? UInt16.size port).isSome

theorem withDefaultPort_completed (address : String) : Completed address where
  ip := withDefaultPort_ip
  bracketed := withDefaultPort_bracketed
  socket := withDefaultPort_socket
  host := withDefaultPort_host
  hostWithPort := withDefaultPort_hostWithPort
  port := by
    obtain ⟨front, port, htext, hport⟩ := withDefaultPort_port address
    exact ⟨front, port, by rw [htext, cutLast_append (not_mem_of_unsigned? (by decide) (by decide) hport)], hport⟩

theorem withDefaultPort_forms :
    SocketAddress.ofChars? (withDefaultPort " ::FFFF:1.2.3.4\t").toList =
      some (.v6 ⟨#v[0, 0, 0, 0, 0, 0xFFFF, 0x102, 0x304]⟩ 0 53) ∧
    SocketAddress.ofChars? (withDefaultPort "[::1]").toList = some (.v6 ⟨#v[0, 0, 0, 0, 0, 0, 0, 1]⟩ 0 53) ∧
    withDefaultPort "[fe80::1%2]:053" = "[fe80::1%2]:053" ∧
    withDefaultPort "dns.example.net" = "dns.example.net:53" ∧
    withDefaultPort "1.2.3:+0853" = "1.2.3:+0853" := by
  have hmapped : IP.ofChars? "::FFFF:1.2.3.4".toList = some (.v6 ⟨#v[0, 0, 0, 0, 0, 0xFFFF, 0x102, 0x304]⟩) := by decide
  have hlocal : IP.ofChars? "::1".toList = some (.v6 ⟨#v[0, 0, 0, 0, 0, 0, 0, 1]⟩) := by decide
  have hscope : SocketAddress.ofChars? "[fe80::1%2]:053".toList =
      some (.v6 ⟨#v[0xFE80, 0, 0, 0, 0, 0, 0, 1]⟩ 2 53) := by decide
  have hblanks : Surrounded "::FFFF:1.2.3.4".toList " ::FFFF:1.2.3.4\t".toList :=
    ⟨[' '], ['\t'], List.all_eq_true.mp (by decide), List.all_eq_true.mp (by decide), rfl⟩
  have hname : IsHost "dns.example.net".toList := by decide
  have hdigits : IsHost "1.2.3".toList := by decide
  have hport : (unsigned? UInt16.size "+0853".toList).isSome := by decide
  exact ⟨(withDefaultPort_completed _).ip hmapped hblanks,
    (withDefaultPort_completed _).bracketed hlocal (.refl _),
    (withDefaultPort_completed _).socket hscope (.refl _),
    (withDefaultPort_completed _).host hname (.refl _),
    (withDefaultPort_completed _).hostWithPort hdigits hport (.refl _)⟩

/-! ### Completing twice -/

/-- A text is left as it is when it has a port and no blanks around it. Otherwise there is a colon more in it. -/
theorem withDefaultPort_eq_self_iff : withDefaultPort address = address ↔
    HasPort address.toList ∧ IsTrimmed address.toList := by
  constructor
  · intro h
    by_cases hport : HasPort (trimmed address.toList)
    · rw [withDefaultPort_of_hasPort hport] at h
      have htext := congrArg String.toList h
      rw [String.toList_ofList] at htext
      rw [htext] at hport
      exact ⟨hport, htext ▸ isTrimmed_trimmed _⟩
    · cases hip : IP.ofChars? (unbracketed (trimmed address.toList)) with
      | some ip =>
        rw [withDefaultPort_of_ip hport hip] at h
        rw [← h]
        exact ⟨hasPort_render _, SocketAddress.isTrimmed (SocketAddress.ofChars?_render _)⟩
      | none =>
        rw [withDefaultPort_of_host hport hip] at h
        have hcount := congrArg (List.count ':' ·.toList) h
        simp [count_unbracketed, count_trimmed (c := ':') (by decide)] at hcount
  · rintro ⟨hport, htrimmed⟩
    have htext := htrimmed.trimmed_eq
    rw [withDefaultPort_of_hasPort (by rwa [htext]), htext, String.ofList_toList]

/-- The texts that are complete after the first time: those with a port, IP addresses, and hosts without colons. There
may be brackets around the latter two, but no blank behind the brackets in front of a host. -/
def GetsOnePort (cs : List Char) : Prop :=
  HasPort cs ∨ (IP.ofChars? (unbracketed cs)).isSome ∨
    unbracketed cs ≠ [] ∧ ':' ∉ unbracketed cs ∧ ∀ c, (unbracketed cs).head? = some c → isBlank c = false

theorem hasPort_append (h : cs.head? ≠ some '[') : HasPort (cs ++ ":53".toList) ↔ cs ≠ [] ∧ ':' ∉ cs := by
  have htext : cs ++ ":53".toList = cs ++ ':' :: "53".toList := rfl
  rw [htext]
  constructor
  · intro hport
    have hhead : (cs ++ ':' :: "53".toList).head? ≠ some '[' := by
      cases cs with
      | nil => decide
      | cons c cs => exact h
    obtain ⟨front, port, hcs, hp, hplain⟩ := hport.exists_port
    have hcut : cutLast ':' (cs ++ ':' :: "53".toList) = some (cs, "53".toList) := cutLast_append (by decide)
    rw [hcs, cutLast_append (not_mem_of_unsigned? (by decide) (by decide) hp)] at hcut
    cases hcut
    exact hplain hhead
  · rintro ⟨hne, hcolon⟩
    exact .inr (isHostWithPort_iff.mpr ⟨cs, "53".toList, rfl, hne, hcolon, by decide⟩)

theorem isTrimmed_append (h : cs ≠ []) :
    IsTrimmed (cs ++ ":53".toList) ↔ ∀ c, cs.head? = some c → isBlank c = false := by
  have hhead : (cs ++ ":53".toList).head? = cs.head? := by
    cases cs with
    | nil => exact absurd rfl h
    | cons c cs => rfl
  constructor
  · intro htrimmed
    rw [← hhead]
    exact htrimmed.head
  · intro hblank
    refine ⟨hhead ▸ hblank, fun c hc => ?_⟩
    rw [List.getLast?_append_of_ne_nil _ (by decide)] at hc
    cases hc
    decide

/-- Those are all. -/
theorem withDefaultPort_withDefaultPort_iff (address : String) :
    withDefaultPort (withDefaultPort address) = withDefaultPort address ↔ GetsOnePort (trimmed address.toList) := by
  rw [withDefaultPort_eq_self_iff, GetsOnePort]
  by_cases hport : HasPort (trimmed address.toList)
  · rw [withDefaultPort_of_hasPort hport, String.toList_ofList]
    exact iff_of_true ⟨hport, isTrimmed_trimmed _⟩ (.inl hport)
  · cases hip : IP.ofChars? (unbracketed (trimmed address.toList)) with
    | some ip =>
      rw [withDefaultPort_of_ip hport hip]
      exact iff_of_true ⟨hasPort_render _, SocketAddress.isTrimmed (SocketAddress.ofChars?_render _)⟩ (.inr (.inl rfl))
    | none =>
      rw [withDefaultPort_of_host hport hip, String.toList_append, String.toList_ofList,
        hasPort_append (head?_unbracketed _), or_iff_right hport, or_iff_right (by simp), and_assoc]
      exact and_congr_right fun hne => and_congr_right fun _ => isTrimmed_append hne

theorem withDefaultPort_colons :
    withDefaultPort (withDefaultPort "a:b:c") ≠ withDefaultPort "a:b:c" := by decide

end FilterWatch
