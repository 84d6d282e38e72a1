import FilterWatch.Cli.Report
import FilterWatch.Proofs.Exhausted
import FilterWatch.Proofs.Items
import FilterWatch.Proofs.Spelling

/-!
# What a command line that checks domains prints

A report is a table: the lines of its text are rows, and tabs separate the fields of a row. Nothing in a field is
escaped, so the rows can be read back from the text exactly if no field has a tab or a line feed in it
(`cells_text_iff`). The fields of a command that checks domains come of its arguments and of the addresses of resolvers,
and the words around them are plain (`Outcome.Concerns.isPlain`). Whatever options were accepted there is a resolver to
ask (`Cli.resolvers_ne_nil_of_parse`), so each argument has its row, and the exit code says whether one of them is an
error (`Cli.tabulates`).
-/

namespace FilterWatch
open Text

/-! ### Rows and fields -/

section
variable {α β : Type} {f : α → List β} {g : α → β}

theorem length_le_length_flatMap (hf : ∀ a, f a ≠ []) (l : List α) : l.length ≤ (l.flatMap f).length := by
  induction l with
  | nil => exact Nat.le_refl _
  | cons a l ih =>
    have hpos := List.length_pos_iff.mpr (hf a)
    rw [List.flatMap_cons, List.length_append, List.length_cons]
    omega

theorem flatMap_eq_map_iff (hf : ∀ a, f a ≠ []) {l : List α} : l.flatMap f = l.map g ↔ ∀ a ∈ l, f a = [g a] := by
  constructor
  · intro h
    induction l with
    | nil => simp
    | cons a l ih =>
      obtain ⟨b, bs, hfa⟩ := List.exists_cons_of_ne_nil (hf a)
      rw [List.flatMap_cons, List.map_cons, hfa, List.cons_append, List.cons.injEq] at h
      obtain ⟨rfl, hrest⟩ := h
      have hbs : bs = [] := by
        have hlength := congrArg List.length hrest
        have hle := length_le_length_flatMap hf l
        rw [List.length_append, List.length_map] at hlength
        exact List.length_eq_zero_iff.mp (by omega)
      subst hbs
      exact List.forall_mem_cons.mpr ⟨hfa, ih hrest⟩
  · intro h
    rw [List.flatMap_congr h]
    exact List.flatMap_pure_eq_map g l

end

namespace Cli

/-- Whether a text is all in one field. -/
def IsPlain (s : String) : Prop := '\t' ∉ s.toList ∧ '\n' ∉ s.toList

instance (s : String) : Decidable (IsPlain s) := inferInstanceAs (Decidable (_ ∧ _))

def cellsOf (line : List Char) : List String := (fields '\t' line).map .ofList

def cells (text : String) : List (List String) := (fields '\n' text.toList).map cellsOf

section
variable {row : List String} {rows : List (List String)} {r : Report}

theorem toList_tabbed (row : List String) : (tabbed row).toList = ['\t'].intercalate (row.map String.toList) :=
  String.toList_intercalate

theorem cellsOf_eq_singleton {part : String} : cellsOf part.toList = [part] ↔ '\t' ∉ part.toList := by
  rw [← fields_eq_singleton]
  constructor
  · intro h
    have hback := congrArg (List.map String.toList) h
    simpa [cellsOf, Function.comp_def] using hback
  · intro h
    rw [cellsOf, h]
    simp

theorem cellsOf_tabbed_iff (hne : row ≠ []) : cellsOf (tabbed row).toList = row ↔ ∀ part ∈ row, '\t' ∉ part.toList := by
  have hcells : cellsOf (tabbed row).toList = row.flatMap fun part => cellsOf part.toList := by
    rw [cellsOf, toList_tabbed, fields_intercalate (by simpa using hne), List.flatMap_map, List.map_flatMap]
    rfl
  have hsome : ∀ part : String, cellsOf part.toList ≠ [] := by simp [cellsOf, fields_ne_nil]
  have hiff := flatMap_eq_map_iff (g := id) hsome (l := row)
  rw [List.map_id, ← hcells] at hiff
  rw [hiff]
  exact forall₂_congr fun part _ => cellsOf_eq_singleton

theorem cells_text (hr : r.lines = rows.map tabbed) :
    cells r.text = (rows.flatMap fun row => (fields '\n' (tabbed row).toList).map cellsOf) ++ [[""]] := by
  have htext : r.text.toList = (rows.map fun row => (tabbed row).toList).flatMap (· ++ ['\n']) := by
    rw [Report.text, String.toList_join, hr]
    simp [List.flatMap_map]
  rw [cells, htext, fields_terminated, List.map_append, List.flatMap_map, List.map_flatMap]
  rfl

theorem lines_tabbed_iff (hne : row ≠ []) :
    (fields '\n' (tabbed row).toList).map cellsOf = [row] ↔ ∀ part ∈ row, IsPlain part := by
  have hline : '\n' ∉ (tabbed row).toList ↔ ∀ part ∈ row, '\n' ∉ part.toList := by
    rw [toList_tabbed, mem_intercalate (by decide)]
    simp
  constructor
  · intro h
    have hlength := congrArg List.length h
    rw [List.length_map, length_fields, List.length_singleton] at hlength
    have hnone : '\n' ∉ (tabbed row).toList := List.count_eq_zero.mp (by omega)
    rw [fields_eq_singleton.mpr hnone, List.map_singleton] at h
    have htabs := (cellsOf_tabbed_iff hne).mp (List.singleton_inj.mp h)
    exact fun part hpart => ⟨htabs part hpart, hline.mp hnone part hpart⟩
  · intro h
    rw [fields_eq_singleton.mpr (hline.mpr fun part hpart => (h part hpart).2), List.map_singleton,
      (cellsOf_tabbed_iff hne).mpr fun part hpart => (h part hpart).1]

/-- The rows can be read back from the text exactly if all their fields are plain. -/
theorem cells_text_iff (hr : r.lines = rows.map tabbed) (hne : ∀ row ∈ rows, row ≠ []) :
    cells r.text = rows ++ [[""]] ↔ ∀ row ∈ rows, ∀ part ∈ row, IsPlain part := by
  have hsome : ∀ row : List String, (fields '\n' (tabbed row).toList).map cellsOf ≠ [] := by simp [fields_ne_nil]
  have hiff := flatMap_eq_map_iff (g := id) hsome (l := rows)
  rw [List.map_id] at hiff
  rw [cells_text hr, List.append_left_inj, hiff]
  exact forall₂_congr fun row hrow => lines_tabbed_iff (hne row hrow)

end
end Cli

/-! ### Rows of outcomes -/

namespace Outcome

/-- The word that a row has for the outcome. -/
def status (o : Outcome) : String := if o.error.isSome then "error" else if o.blocked then "blocked" else "clear"

/-- The text of the error, or the address of the resolver. -/
def detail (o : Outcome) : String := (o.error.map (·.message)).getD o.resolver

def row (o : Outcome) : List String := [o.domain, o.status, o.detail]

theorem outcomeLine_eq (o : Outcome) : Cli.outcomeLine o = Cli.tabbed o.row := by
  cases o with
  | mk domain blocked resolver error => cases error <;> rfl

theorem status_eq_error {o : Outcome} : o.status = "error" ↔ o.error.isSome := by
  unfold status
  cases o.error with
  | none => cases o.blocked <;> decide
  | some e => simp

open Cli (IsPlain)

theorem isPlain_append {s t : String} (hs : IsPlain s) (ht : IsPlain t) : IsPlain (s ++ t) := by
  constructor
  · simpa using ⟨hs.1, ht.1⟩
  · simpa using ⟨hs.2, ht.2⟩

theorem isPlain_normalize {raw : String} (h : IsPlain raw) : IsPlain (normalize raw) :=
  ⟨fun hmem => h.1 (mem_of_mem_normalize hmem (by decide)), fun hmem => h.2 (mem_of_mem_normalize hmem (by decide))⟩

variable {net : Network} {rs : List Resolver} {raw : String} {o : Outcome}

theorem Concerns.domain_eq (h : o.Concerns net rs raw) : o.domain = normalize raw ∨ o.domain = raw := by
  cases h with
  | verdict | invalid | exhausted | cancelled => exact .inl rfl
  | skipped | crashed => exact .inr rfl

theorem Concerns.isPlain (h : o.Concerns net rs raw) (hnet : net.NeverCrashes) (hraw : IsPlain raw)
    (hrs : ∀ r ∈ rs, IsPlain r.address) : ∀ part ∈ o.row, IsPlain part := by
  have hstatus : IsPlain o.status := by
    unfold status
    split <;> [decide; split <;> decide]
  have hdomain : IsPlain o.domain := by
    rcases h.domain_eq with hdomain | hdomain <;> rw [hdomain]
    · exact isPlain_normalize hraw
    · exact hraw
  have hdetail : IsPlain o.detail := by
    cases h with
    | @verdict r hr => exact hrs r hr
    | invalid => exact isPlain_append (by decide) (isPlain_normalize hraw)
    | exhausted => exact (by decide : IsPlain CheckError.allResolversFailed.message)
    | cancelled | skipped => exact (by decide : IsPlain CheckError.cancelled.message)
    | crashed hf =>
      rcases hf hnet with rfl | rfl
      · exact (by decide : IsPlain (CheckError.ofFault Dns.noTextFault).message)
      · exact (by decide : IsPlain (CheckError.ofFault MemoryCache.expiryFault).message)
  simp [row, hdomain, hstatus, hdetail]

end Outcome

/-! ### Options -/

namespace Cli
variable {s s' : Options} {o : OptionName} {value : List Char} {rest rest' : List (List Char)}
  {opts : List (OptionName × Option (List Char))} {i : Invocation}

/-- Resolvers that are given stand beside those of the configuration, and no option changes these. -/
theorem resolvers_set (h : s.set o value = .ok s') : s'.config.resolvers = s.config.resolvers := by
  unfold Options.set Options.number at h
  cases o with
  | timeout | retries | concurrency | cacheTtl | payload =>
    dsimp only at h
    split at h
    · cases h; rfl
    · cases h
  | resolver =>
    dsimp only at h
    split at h
    · cases h; rfl
    · cases h
  | tcp | verbose | help => cases h; rfl

theorem resolvers_add (h : s.add o value = .ok s') : s'.config.resolvers = s.config.resolvers := by
  unfold Options.add at h
  split at h
  · cases h
  · exact (resolvers_set h :)

theorem exists_of_bind_eq_ok {ε α β : Type} {x : Except ε α} {f : α → Except ε β} {b : β} (h : x >>= f = .ok b) :
    ∃ a, x = .ok a ∧ f a = .ok b := by
  cases x with
  | error e => cases h
  | ok a => exact ⟨a, rfl, h⟩

theorem resolvers_addAll (h : addAll s rest opts = .ok (s', rest')) : s'.config.resolvers = s.config.resolvers := by
  induction opts generalizing s with
  | nil => cases h; rfl
  | cons opt more ih =>
    obtain ⟨o, _ | value⟩ := opt
    · rw [addAll] at h
      obtain ⟨⟨value, rest₁⟩, -, h⟩ := exists_of_bind_eq_ok h
      obtain ⟨s₁, hadd, h⟩ := exists_of_bind_eq_ok h
      cases h
      exact resolvers_add hadd
    · rw [addAll] at h
      obtain ⟨s₁, hadd, h⟩ := exists_of_bind_eq_ok h
      exact (ih h).trans (resolvers_add hadd)

theorem resolvers_parseFrom {fuel : Nat} {args : List (List Char)} (h : parseFrom s fuel args = .ok i) :
    i.options.config.resolvers = s.config.resolvers := by
  induction fuel generalizing s args with
  | zero => cases h
  | succ fuel ih =>
    -- after the options of an argument the invocation is at its end, or it goes on with the next argument
    have hgoesOn : ∀ {s₁ : Options} {rest : List (List Char)}, s₁.config.resolvers = s.config.resolvers →
        (if s₁.seen.contains .help then pure ⟨s₁, .help⟩ else parseFrom s₁ fuel rest) = .ok i →
        i.options.config.resolvers = s.config.resolvers := by
      intro s₁ rest hs₁ h
      split at h
      · cases h
        exact hs₁
      · exact (ih h).trans hs₁
    cases args with
    | nil => cases h
    | cons arg rest =>
      unfold parseFrom at h
      split at h
      · cases h
      · obtain ⟨opt, -, h⟩ := exists_of_bind_eq_ok h
        obtain ⟨⟨s₁, rest₁⟩, hadd, h⟩ := exists_of_bind_eq_ok h
        exact hgoesOn (resolvers_addAll hadd) h
      · obtain ⟨opts, -, h⟩ := exists_of_bind_eq_ok h
        obtain ⟨⟨s₁, rest₁⟩, hadd, h⟩ := exists_of_bind_eq_ok h
        exact hgoesOn (resolvers_addAll hadd) h
      · obtain ⟨command, -, h⟩ := exists_of_bind_eq_ok h
        cases h
        rfl

/-- Whatever options were accepted, there is a resolver to be asked. -/
theorem resolvers_ne_nil_of_parse {args : List String} (h : parse args = .ok i) :
    i.options.toConfig.resolvers ≠ [] := by
  have hresolvers : i.options.config.resolvers = defaultResolvers := resolvers_parseFrom h
  unfold Options.toConfig
  split
  · rw [hresolvers]
    decide
  · rename_i hgiven
    exact fun hnil => hgiven (List.isEmpty_iff.mpr hnil)

/-! ### Reports -/

/-- What a report says of the items `raws` that were checked with the resolvers `rs`. -/
structure Tabulates (net : Network) (rs : List Resolver) (raws : List String) (os : List Outcome) (r : Report) :
    Prop where
  length : os.length = raws.length
  outcomes : ∀ (i : Nat) raw o, raws[i]? = some raw → os[i]? = some o → o.Concerns net rs raw
  text : r.text = String.join (os.map fun o => tabbed o.row ++ "\n")
  /-- So there is one line with these fields for each outcome if no tab and no line feed is in the fields, and only
  then. -/
  readable : cells r.text = os.map Outcome.row ++ [[""]] ↔ ∀ o ∈ os, ∀ part ∈ o.row, IsPlain part
  plain : net.NeverCrashes → (∀ raw ∈ raws, IsPlain raw) → (∀ r ∈ rs, IsPlain r.address) →
    cells r.text = os.map Outcome.row ++ [[""]]
  broken : ∀ raw ∈ raws, ¬ IsPlain (normalize raw) → cells r.text ≠ os.map Outcome.row ++ [[""]]
  succeeds : r.exitCode = 0 ↔ ∀ o ∈ os, o.status ≠ "error"
  fails : r.exitCode = 1 ↔ ∃ o ∈ os, o.status = "error"

theorem exitCode_ofOutcomes (os : List Outcome) :
    (Report.ofOutcomes os).exitCode = if ∃ o ∈ os, o.status = "error" then 1 else 0 := by
  have hall : os.all (·.error.isNone) = true ↔ ¬ ∃ o ∈ os, o.status = "error" := by
    simp [List.all_eq_true, Outcome.status_eq_error]
  rw [Report.ofOutcomes, exitCodeOf]
  by_cases herror : ∃ o ∈ os, o.status = "error"
  · rw [if_neg (mt hall.mp (not_not_intro herror)), if_pos herror]
  · rw [if_pos (hall.mpr herror), if_neg herror]

section
variable {net : Network} {rs : List Resolver} {raws : List String} {os : List Outcome}

theorem tabulates_of_concerns (hlength : os.length = raws.length)
    (h : ∀ (i : Nat) raw o, raws[i]? = some raw → os[i]? = some o → o.Concerns net rs raw) :
    Tabulates net rs raws os (.ofOutcomes os) := by
  have hlines : (Report.ofOutcomes os).lines = (os.map Outcome.row).map tabbed := by
    rw [List.map_map]
    exact List.map_congr_left fun o _ => o.outcomeLine_eq
  have hreadable : cells (Report.ofOutcomes os).text = os.map Outcome.row ++ [[""]] ↔
      ∀ o ∈ os, ∀ part ∈ o.row, IsPlain part := by
    rw [cells_text_iff hlines fun row hrow => ?_]
    · simp
    · obtain ⟨o, -, rfl⟩ := List.mem_map.mp hrow
      simp [Outcome.row]
  refine ⟨hlength, h, ?_, hreadable, fun hnet hraws hrs => hreadable.mpr fun o ho => ?_,
    fun raw hraw hplain heq => hplain ?_, ?_, ?_⟩
  · rw [Report.text, hlines]
    simp [List.map_map, Function.comp_def]
  · obtain ⟨i, hi, rfl⟩ := List.getElem_of_mem ho
    have hi' : i < raws.length := hlength ▸ hi
    exact (h i _ _ (List.getElem?_eq_getElem hi') (List.getElem?_eq_getElem hi)).isPlain hnet
      (hraws _ (List.getElem_mem hi')) hrs
  · obtain ⟨i, hi, rfl⟩ := List.getElem_of_mem hraw
    have hi' : i < os.length := hlength ▸ hi
    have hdomain : IsPlain os[i].domain := hreadable.mp heq _ (List.getElem_mem hi') _ (.head _)
    rcases (h i _ _ (List.getElem?_eq_getElem hi) (List.getElem?_eq_getElem hi')).domain_eq with heq | heq
    · exact heq ▸ hdomain
    · exact Outcome.isPlain_normalize (heq ▸ hdomain)
  · rw [exitCode_ofOutcomes]
    split <;> simp_all
  · rw [exitCode_ofOutcomes]
    split <;> simp_all

end

/-- A command line that checks domains has a resolver to ask, whatever options were accepted, and it prints what has
come of each domain, in their order. It prints texts as they are: there is one line with three fields for each domain
unless a tab or a line feed is in what is printed, and for that the user has to give one. The exit code says whether
there is an error. -/
theorem tabulates {args : List String} {i : Invocation} {raws : List String} (hargs : parse args = .ok i)
    (hcommand : i.command = .check raws) (net : Network) (call : Call) (hcall : call.KeepsResolvers) :
    let c := Checker.build i.options.toConfig none
    run net args = perform net {} c i.command ∧
    (∃ ts b, (c.manyBatch call raws).Finishes net c.limit ts b ∧
      (c.checkMany net call raws).2 = .ok (b.results Checker.fallback raws) ∧
      perform net call c i.command = .ofOutcomes (b.results Checker.fallback raws)) ∧
    ∀ limit ts b, (c.manyBatch call raws).Finishes net limit ts b →
      Tabulates net i.options.toConfig.resolvers raws (b.results Checker.fallback raws)
        (.ofOutcomes (b.results Checker.fallback raws)) := by
  intro c
  have hne : c.resolvers ≠ [] := resolvers_ne_nil_of_parse hargs
  refine ⟨by rw [run, hargs], ?_, fun limit ts b h => ?_⟩
  · obtain ⟨ts, b, h, heq⟩ := Checker.checkMany_finishes net call hne raws
    refine ⟨ts, b, h, by rw [heq], ?_⟩
    rw [hcommand, perform, heq]
  · obtain ⟨k, hdispatched⟩ := h.dispatched Checker.fallback
    exact tabulates_of_concerns hdispatched.length fun i raw o => Checker.concerns hcall h

theorem tabulates_reddit : ∃ i, parse ["--resolver", "10.0.0.1", "check", "Reddit.COM."] = .ok i ∧
    i.command = .check ["Reddit.COM."] ∧ Call.KeepsResolvers {} ∧
    ∃ o : Outcome, o.Concerns .answering i.options.toConfig.resolvers "Reddit.COM." ∧
      cells (run .answering ["--resolver", "10.0.0.1", "check", "Reddit.COM."]).text = [o.row, [""]] := by
  have hargs : parse ["--resolver", "10.0.0.1", "check", "Reddit.COM."] =
      .ok ⟨{ seen := [.resolver], resolvers := [⟨"10.0.0.1", "", .a⟩] }, .check ["Reddit.COM."]⟩ := rfl
  have hcall : Call.KeepsResolvers {} := by simp [Call.KeepsResolvers]
  obtain ⟨hrun, ⟨ts, b, hfin, -, heq⟩, hall⟩ := tabulates hargs rfl .answering {} hcall
  have htable := hall _ ts b hfin
  refine ⟨_, hargs, rfl, hcall, ?_⟩
  obtain ⟨o, ho⟩ := List.length_eq_one_iff.mp htable.length
  have hplain := htable.plain (fun _ _ _ _ _ h => nomatch h) (by decide) (by decide)
  rw [hrun, heq]
  rw [ho] at hplain ⊢
  exact ⟨o, htable.outcomes 0 _ o rfl (by rw [ho]; rfl), hplain⟩

/-- The line for an argument with a tab in it has five fields. -/
theorem run_of_tab : (run .answering ["check", "a\tb.com"]).exitCode = 1 ∧
    (run .answering ["check", "a\tb.com"]).text = "a\tb.com\terror\tinvalid domain name: a\tb.com\n" ∧
    cells (run .answering ["check", "a\tb.com"]).text =
      [["a", "b.com", "error", "invalid domain name: a", "b.com"], [""]] := by
  have hargs : parse ["check", "a\tb.com"] = .ok ⟨{}, .check ["a\tb.com"]⟩ := rfl
  have hne : (Checker.build (Options.toConfig {}) none).resolvers ≠ [] := by decide
  have hreport : run .answering ["check", "a\tb.com"] =
      .ofOutcomes [.failed "a\tb.com" (.invalidInput "a\tb.com")] := by
    have hcheck : (Checker.build (Options.toConfig {}) none).checkMany .answering {} ["a\tb.com"] = _ :=
      Checker.checkMany_of_steps hne [] (by simp [Call.agendaFrom]) 1 rfl (by decide +kernel)
    simp only [run, hargs, perform, hcheck]
    decide +kernel
  rw [hreport]
  decide +kernel

end Cli
end FilterWatch
