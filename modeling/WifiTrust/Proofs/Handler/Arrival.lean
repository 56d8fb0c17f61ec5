import WifiTrust.Proofs.Chain.Delivery
import WifiTrust.Proofs.Handler.Attempt
import WifiTrust.Proofs.Handler.Coherence
import WifiTrust.Store.Memory

/-!
# Certificates in any order

Certificates for different depths commute: each fills its own place in the chain, and only those for
depth zero touch the store and the supplicant. So what a handshake delivers leads to one state, in
whatever order the depths come.
-/

namespace WifiTrust

/-- The connection takes the certificates that are delivered for an SSID. -/
structure Pending.Collects (p : Pending) (ssid : String) : Prop where
  named : ssid ≠ ""
  ssid_eq : p.network.ssid = ssid
  tofu : p.usesTofu = true

theorem Pending.Collects.grown {p : Pending} {ssid : String} (h : p.Collects ssid) (c : Chain) :
    { p with chain := c }.Collects ssid := ⟨h.named, h.ssid_eq, h.tofu⟩

namespace Handler

variable {σ : Type} [NetworkStore σ]

theorem addCertificate_of_collects {h : Handler σ} {p : Pending} (hp : h.pending = some p)
    {ssid : String} (collects : p.Collects ssid) (depth : Int) (c : Certificate) :
    h.addCertificate ssid depth c =
      if 0 ≤ depth ∧ c.isReadable then
        (true, h.received p (p.chain.entered depth.toNat c) depth)
      else (false, h) := by
  split
  · next hfit =>
      obtain ⟨hdepth, hreadable⟩ := hfit
      obtain ⟨outcome, hinsert⟩ :=
        p.chain.insert_of_readable depth.toNat (Certificate.isReadable_iff.1 hreadable)
      have hcollect := collect_eq_some_iff.2 ⟨p, outcome, _, collects.named, hdepth, hp,
        collects.ssid_eq, collects.tofu, hinsert, rfl⟩
      simp only [addCertificate, hcollect, received]
  · next hunfit =>
      have hcollect : h.collect ssid depth c = none := by
        refine Option.eq_none_iff_forall_ne_some.2 fun h' hsome => hunfit ?_
        obtain ⟨_, _, _, _, hdepth, _, _, _, hentered, _⟩ := collect_eq_some_iff.1 hsome
        obtain ⟨entry, hentry, _⟩ := Chain.insert_eq_ok_iff.1 hentered
        exact ⟨hdepth,
          Certificate.isReadable_iff.2 (ChainEntry.exists_ofCertificate_iff.1 ⟨entry, hentry⟩)⟩
      simp only [addCertificate, hcollect]

theorem addCertificate_of_not_collects {h : Handler σ} {ssid : String}
    (hnone : ∀ p, h.pending = some p → ¬p.Collects ssid) (depth : Int) (c : Certificate) :
    h.addCertificate ssid depth c = (false, h) := by
  have hcollect : h.collect ssid depth c = none := by
    refine Option.eq_none_iff_forall_ne_some.2 fun h' hsome => ?_
    obtain ⟨p, _, _, hname, _, hp, hssid, htofu, _⟩ := collect_eq_some_iff.1 hsome
    exact hnone p hp ⟨hname, hssid, htofu⟩
  simp only [addCertificate, hcollect]

theorem received_pending (h : Handler σ) (p : Pending) (chain : Chain) (depth : Int) :
    (h.received p chain depth).pending = some { p with chain := chain } := by rw [received_eq]

/-- Only one of two different depths is the server's, so what it does is done once either way. -/
theorem received_comm (h : Handler σ) (p : Pending) (c c' last : Chain) {d d' : Int}
    (hne : d ≠ d') :
    (h.received p c d).received { p with chain := c } last d' =
      (h.received p c' d').received { p with chain := c' } last d := by
  simp only [received_eq]
  by_cases hd : d = 0
  · have hd' : d' ≠ 0 := fun h => hne (hd.trans h.symm)
    simp [hd, hd']
  · simp [hd]

theorem addCertificate_comm (h : Handler σ) (ssid : String) {d d' : Int} (hne : d ≠ d')
    (c c' : Certificate) :
    ((h.addCertificate ssid d c).2.addCertificate ssid d' c').2 =
      ((h.addCertificate ssid d' c').2.addCertificate ssid d c).2 := by
  by_cases hcollects : ∃ p, h.pending = some p ∧ p.Collects ssid
  · obtain ⟨p, hp, collects⟩ := hcollects
    have hfirst := addCertificate_of_collects hp collects d c
    have hsecond := addCertificate_of_collects hp collects d' c'
    by_cases hfit : 0 ≤ d ∧ c.isReadable
    · rw [if_pos hfit] at hfirst
      by_cases hfit' : 0 ≤ d' ∧ c'.isReadable
      · rw [if_pos hfit'] at hsecond
        have hplaces : d.toNat ≠ d'.toNat := by omega
        rw [hfirst, hsecond,
          addCertificate_of_collects (received_pending ..) (collects.grown _) d' c',
          addCertificate_of_collects (received_pending ..) (collects.grown _) d c,
          if_pos hfit, if_pos hfit', Chain.entered_comm p.chain hplaces]
        exact received_comm h p _ _ _ hne
      · rw [if_neg hfit'] at hsecond
        rw [hsecond, hfirst,
          addCertificate_of_collects (received_pending ..) (collects.grown _) d' c',
          if_neg hfit']
    · rw [if_neg hfit] at hfirst
      by_cases hfit' : 0 ≤ d' ∧ c'.isReadable
      · rw [if_pos hfit'] at hsecond
        rw [hfirst, hsecond,
          addCertificate_of_collects (received_pending ..) (collects.grown _) d c,
          if_neg hfit]
      · rw [if_neg hfit'] at hsecond
        rw [hfirst, hsecond, hfirst]
  · have hnone : ∀ p, h.pending = some p → ¬p.Collects ssid :=
      fun p hp collects => hcollects ⟨p, hp, collects⟩
    rw [addCertificate_of_not_collects hnone, addCertificate_of_not_collects hnone,
      addCertificate_of_not_collects hnone]

def deliveries (ssid : String) (cs : List (Int × Certificate)) : List Operation :=
  cs.map fun (depth, c) => .addCertificate ssid depth c

theorem run_deliveries_middle (h : Handler σ) (ssid : String) {x : Int × Certificate}
    {before : List (Int × Certificate)} (hother : ∀ y ∈ before, y.1 ≠ x.1)
    (after : List (Int × Certificate)) :
    h.run (deliveries ssid (before ++ x :: after)) =
      h.run (deliveries ssid (x :: (before ++ after))) := by
  induction before generalizing h with
  | nil => rfl
  | cons y before ih =>
      have hrest : ∀ z ∈ before, z.1 ≠ x.1 := fun z hz => hother z (List.mem_cons_of_mem y hz)
      have hswap := h.addCertificate_comm ssid (hother y List.mem_cons_self) y.2 x.2
      have hmoved := ih (h.addCertificate ssid y.1 y.2).2 hrest
      calc h.run (deliveries ssid (y :: before ++ x :: after))
          = (h.addCertificate ssid y.1 y.2).2.run
              (deliveries ssid (x :: (before ++ after))) := hmoved
        _ = (((h.addCertificate ssid y.1 y.2).2).addCertificate ssid x.1 x.2).2.run
              (deliveries ssid (before ++ after)) := rfl
        _ = h.run (deliveries ssid (x :: (y :: before ++ after))) := by rw [hswap]; rfl

/-- Deliveries that agree at each depth lead to one state. -/
theorem run_deliveries_of_ordered (h : Handler σ) (ssid : String)
    {cs cs' : List (Int × Certificate)}
    (ordered : ∀ depth, cs.filter (·.1 = depth) = cs'.filter (·.1 = depth)) :
    h.run (deliveries ssid cs) = h.run (deliveries ssid cs') := by
  induction cs generalizing h cs' with
  | nil =>
      have hempty : cs' = [] := by
        refine List.eq_nil_iff_forall_not_mem.2 fun x hx => ?_
        have hmem : x ∈ cs'.filter (·.1 = x.1) := List.mem_filter.2 ⟨hx, by simp⟩
        rw [← ordered x.1] at hmem
        cases hmem
      rw [hempty]
  | cons x cs ih =>
      -- the first delivery is also the first of its depth in the other list
      have hfirst : cs'.filter (·.1 = x.1) = x :: cs.filter (·.1 = x.1) := by
        rw [← ordered x.1, List.filter_cons_of_pos (by simp)]
      obtain ⟨before, after, rfl, hbefore, -, hafter⟩ := List.filter_eq_cons_iff.1 hfirst
      have hother : ∀ y ∈ before, y.1 ≠ x.1 := fun y hy => by simpa using hbefore y hy
      have hrest : ∀ depth,
          cs.filter (·.1 = depth) = (before ++ after).filter (·.1 = depth) := by
        intro depth
        by_cases hdepth : x.1 = depth
        · have hnone : before.filter (·.1 = depth) = [] := by
            refine List.filter_eq_nil_iff.2 fun y hy => ?_
            simpa [← hdepth] using hother y hy
          rw [List.filter_append, hnone, List.nil_append, ← hdepth, hafter]
        · have hsame := ordered depth
          simpa [List.filter_cons, List.filter_append, hdepth] using hsame
      rw [run_deliveries_middle h ssid hother after]
      exact ih (h.addCertificate ssid x.1 x.2).2 hrest

theorem ordered_of_nodup {cs cs' : List (Int × Certificate)} (same : cs.Perm cs')
    (distinct : (cs.map (·.1)).Nodup) (depth : Int) :
    cs.filter (·.1 = depth) = cs'.filter (·.1 = depth) := by
  have hperm := same.filter (·.1 = depth)
  have hpairwise : (cs.filter (·.1 = depth)).Pairwise fun x y => x.1 ≠ y.1 :=
    (List.pairwise_map.1 distinct).filter _
  have hdepths : ∀ x ∈ cs.filter (·.1 = depth), x.1 = depth := by
    intro x hx
    simpa using (List.mem_filter.1 hx).2
  revert hperm hpairwise hdepths
  generalize cs.filter (·.1 = depth) = found
  intro hperm hpairwise hdepths
  match found with
  | [] => exact hperm.nil_eq
  | [x] => exact List.singleton_perm.1 hperm
  | x :: y :: rest =>
      have hne : x.1 ≠ y.1 := (List.pairwise_cons.1 hpairwise).1 y List.mem_cons_self
      have hx : x.1 = depth := hdepths x List.mem_cons_self
      have hy : y.1 = depth := hdepths y (List.mem_cons_of_mem x List.mem_cons_self)
      exact absurd (hx.trans hy.symm) hne

/-- The order of arrival does not matter. Deliveries of the same certificates, in orders that agree
at each depth or with every depth coming once, lead to the same handler, so whatever follows goes
the same way and is answered the same. -/
theorem arrival_order_irrelevant (h : Handler σ) (ssid : String)
    {cs cs' : List (Int × Certificate)} (same : cs.Perm cs')
    (ordered : (∀ depth, cs.filter (·.1 = depth) = cs'.filter (·.1 = depth)) ∨
      (cs.map (·.1)).Nodup) :
    h.run (deliveries ssid cs) = h.run (deliveries ssid cs') ∧
      ∀ later,
        h.run (deliveries ssid cs ++ later) = h.run (deliveries ssid cs' ++ later) ∧
        (h.run (deliveries ssid cs)).answers later =
          (h.run (deliveries ssid cs')).answers later := by
  have hordered : ∀ depth, cs.filter (·.1 = depth) = cs'.filter (·.1 = depth) := by
    rcases ordered with hkept | distinct
    · exact hkept
    · exact ordered_of_nodup same distinct
  have hsame := run_deliveries_of_ordered h ssid hordered
  refine ⟨hsame, fun later => ?_⟩
  rw [run_append, run_append, hsame]
  exact ⟨rfl, rfl⟩

open Corporate in
/-- The corporate chain with a second certificate for the server, one without a depth and one that
has no name: the two for the server keep their order and go before or after the others. -/
theorem corporate_arrival_order_irrelevant :
    let h : Handler MemoryStore := (fresh {} { clock := default } {} {} []).run [.prepare network]
    let server : List (Int × Certificate) := [(0, leaf), (0, root)]
    let others : List (Int × Certificate) :=
      [(1, root), (-1, root), (2, .ofParts "O=Corp" "CN=Corp Root" [] true)]
    (server ++ others).Perm (others ++ server) ∧
      (∀ depth : Int, (server ++ others).filter (·.1 = depth) =
        (others ++ server).filter (·.1 = depth)) ∧
      h.run (deliveries "corp" (server ++ others)) =
        h.run (deliveries "corp" (others ++ server)) ∧
      ((h.run (deliveries "corp" (others ++ server))).chain.bind (·.leaf?)).map (·.certificate) =
        some leaf := by
  intro h server others
  have same : (server ++ others).Perm (others ++ server) := List.perm_append_comm
  have ordered : ∀ depth : Int, (server ++ others).filter (·.1 = depth) =
      (others ++ server).filter (·.1 = depth) := by
    intro depth
    by_cases hdepth : (0 : Int) = depth
    · subst hdepth
      rfl
    · have hnone : server.filter (·.1 = depth) = [] := by simp [server, hdepth]
      rw [List.filter_append, List.filter_append, hnone, List.nil_append, List.append_nil]
  obtain ⟨hsame, _⟩ := arrival_order_irrelevant h "corp" same (.inl ordered)
  exact ⟨same, ordered, hsame, by rfl⟩

end Handler

end WifiTrust
