import WifiTrust.Json.Form.Certificate
import WifiTrust.Json.Form.Decision
import WifiTrust.Json.Form.Network
import WifiTrust.Json.Form.Prompt
import WifiTrust.Proofs.Json.Form

namespace WifiTrust

open Json

attribute [simp] Survives.plain Survives.read

attribute [simp] survives_string survives_bool survives_int32 survives_uint64

@[simp] theorem survives_bytes (bs : Bytes) : Survives bs := by
  refine ⟨.text _, ?_⟩
  change (Json.ofBytes bs).text?.bind (fun s => Hex.decode? s.toList) = some bs
  rw [Json.ofBytes, text?_ofString, Option.bind_some, String.toList_ofList, Hex.decode?_encode]

theorem ofBytes_eq_toJson (bs : Bytes) : Json.ofBytes bs = toJson bs := rfl

@[simp] theorem survives_certificate (c : Certificate) : Survives c := by
  refine .record rfl rfl (by simp) (by simp [ofBytes_eq_toJson]) fun slot given => ?_
  simp only [List.forall_mem_cons] at given
  obtain ⟨hsubject, hissuer, hsignature, hisCa, hfingerprint, hder, -⟩ := given
  simp [hsubject, hissuer, hsignature, hisCa, hfingerprint, hder, Slot.required, Slot.orElse,
    ofBytes_eq_toJson]

@[simp] theorem survives_distinguishedName (n : DistinguishedName) : Survives n := by
  refine .record rfl rfl (by simp) (by simp) fun slot given => ?_
  simp only [List.forall_mem_cons] at given
  obtain ⟨hcommonName, horganization, hemail, hcountry, hstate, hlocality, -⟩ := given
  simp [hcommonName, horganization, hemail, hcountry, hstate, hlocality, Slot.required]

/-! ## Networks -/

@[simp] theorem survives_eapMethod (m : EapMethod) : Survives m :=
  .word rfl rfl (by cases m <;> rfl)

@[simp] theorem survives_innerMethod (m : InnerMethod) : Survives m :=
  .word rfl rfl (by cases m <;> rfl)

@[simp] theorem survives_selection (s : Selection) : Survives s :=
  .word rfl rfl (by cases s <;> rfl)

@[simp] theorem survives_optional_string (o : Option String) : Survives o :=
  .option (fun s _ => survives_string s) nofun

@[simp] theorem survives_strings (ss : List String) : Survives ss :=
  .list fun s _ => survives_string s

@[simp] theorem survives_enterprise (e : Enterprise) : Survives e := by
  refine .record rfl rfl (by simp) (by simp) fun slot given => ?_
  simp only [List.forall_mem_cons] at given
  obtain ⟨heap, hinner, hidentity, hpassword, haliases, hpath, htofu, happroved, -⟩ := given
  simp [heap, hinner, hidentity, hpassword, haliases, hpath, htofu, happroved, Slot.required,
    Slot.orElse]

@[simp] theorem survives_optional_enterprise (o : Option Enterprise) : Survives o :=
  .option (fun e _ => survives_enterprise e) nofun

@[simp] theorem survives_network (n : Network) : Survives n := by
  refine .record rfl rfl (by simp) (by simp) fun slot given => ?_
  simp only [List.forall_mem_cons] at given
  obtain ⟨hid, hssid, henterprise, -⟩ := given
  simp [hid, hssid, henterprise, Slot.required, Slot.orElse]

@[simp] theorem survives_policy (p : Policy) : Survives p := by
  refine .record rfl rfl (by simp) (by simp) fun slot given => ?_
  simp only [List.forall_mem_cons] at given
  obtain ⟨hname, htofu, hinsecure, hlink, -⟩ := given
  simp [hname, htofu, hinsecure, hlink, Slot.orElse]

/-! ## Decisions -/

@[simp] theorem survives_verdict (v : Verdict) : Survives v :=
  .word rfl rfl (by cases v <;> rfl)

theorem Verdict.decision?_verdict (d : Decision) :
    d.verdict.decision? (.given (toJson d.ssid)) = some d := by
  cases d with
  | accept ssid => exact congrArg (Option.map _) (survives_string ssid).read
  | reject ssid => exact congrArg (Option.map _) (survives_string ssid).read
  | error ssid => exact congrArg (Option.map _) (survives_optional_string ssid).read

theorem ofJson?_decision {j : Json} (h : j.opensWithObject = false) :
    (ofJson? j : Option Decision) = (slots? ["decision", "ssid"] j).bind fun slot =>
      (slot "decision").required.bind fun verdict : Verdict => verdict.decision? (slot "ssid") := by
  change ((guard (!j.opensWithObject) : Option Unit).bind fun _ => _) = _
  rw [h]
  rfl

@[simp] theorem survives_decision (d : Decision) : Survives d := by
  refine .record rfl (ofJson?_decision rfl) (by simp) (by simp) fun slot given => ?_
  simp only [List.forall_mem_cons] at given
  obtain ⟨hverdict, hssid, -⟩ := given
  simp [hverdict, hssid, Slot.required, Verdict.decision?_verdict]

/-! ## Prompts -/

@[simp] theorem survives_promptKind (k : PromptKind) : Survives k :=
  .word rfl rfl (by cases k <;> rfl)

@[simp] theorem survives_promptReply (r : PromptReply) : Survives r :=
  .word rfl rfl (by cases r <;> rfl)

@[simp] theorem survives_promptToken (t : PromptToken) : Survives t := by
  refine .record rfl rfl (by simp) (by simp) fun slot given => ?_
  simp only [List.forall_mem_cons] at given
  obtain ⟨hid, hssid, hkind, -⟩ := given
  simp [hid, hssid, hkind, Slot.required]

@[simp] theorem survives_helpLink (l : HelpLink) : Survives l := by
  refine .record rfl rfl (by simp) (by simp) fun slot given => ?_
  simp only [List.forall_mem_cons] at given
  obtain ⟨htext, hurl, -⟩ := given
  simp [htext, hurl, Slot.required]

@[simp] theorem survives_optional_helpLink (o : Option HelpLink) : Survives o :=
  .option (fun l _ => survives_helpLink l) nofun

@[simp] theorem survives_tapAction (tap : TapAction) : Survives tap := by
  cases tap with
  | reply => exact ⟨.text _, word?_ofString rfl⟩
  | nothing => exact ⟨.text _, word?_ofString rfl⟩
  | openUrl url =>
      have hplain : (Json.record [("OpenUrl", toJson url)]).Plain := .record (by simp)
      refine ⟨hplain, ?_⟩
      change (do
        guard (Literal.decode? (Literal.encode "OpenUrl".toList) = some "OpenUrl".toList)
        return TapAction.openUrl (← (ofString url).text?)) = _
      rw [Literal.decode?_encode, text?_ofString]
      rfl

@[simp] theorem survives_dialog (d : Dialog) : Survives d := by
  refine .record rfl rfl (by simp) (by simp) fun slot given => ?_
  simp only [List.forall_mem_cons] at given
  obtain ⟨htoken, htitle, hmessage, hpositive, hnegative, hneutral, hlink, -⟩ := given
  simp [htoken, htitle, hmessage, hpositive, hnegative, hneutral, hlink, Slot.required,
    Slot.optional]

@[simp] theorem survives_notification (n : Notification) : Survives n := by
  refine .record rfl rfl (by simp) (by simp) fun slot given => ?_
  simp only [List.forall_mem_cons] at given
  obtain ⟨htoken, htitle, hmessage, htap, haccept, hreject, -⟩ := given
  simp [htoken, htitle, hmessage, htap, haccept, hreject, Slot.required, Slot.optional]

end WifiTrust
