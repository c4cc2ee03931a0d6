/-!
# Names of characters: letters

The alphabets of the basic plane, in the form that `Text.Names` reads.
-/

namespace Taxonomy.Text.Names

/-- The alphabets of the basic plane, in rows. -/
def letters : List String := [
  "~20!us!glmv;!q7!oFtG;!ff;!pP!aB!aQ!lBpB;!rY!a8!qjtG!dr!jk!hquV!uo!eSz2_oZ_x8_wN_hh_gW_tZ_s2_fJ",
  "_of!dp!sV!lLtG;!gb;!h6!q6mv!dsba!lycBlMA%B%C%D%E%F%G%H%I%J%K%L%M%N%O%P%Q%R%S%T%U%V%W%X%Y%Z!lBu",
  "Acc!rzuo!rYuAcc!dbae!l7lS!h4ae!lyuglMA%B%C%D%E%F%G%H%I%J%K%L%M%N%O%P%Q%R%S%T%U%V%W%X%Y%Z!lBd1c",
  "c!yFlS!rYd1cc!w3~A0!oous!jTglmv!CENTtG;!qv;!d2;!YEN!cibu!sMtG!eJ!dJtG!FEMININE ORDINALjH!lDfka",
  "Fq7mv!outG!umjj!REGISTEREDtG!mg!eutG;!PLUS-MINUS!vlx8_wN!agae!MICROtG;!PILCROW!mRfg!cJ!vloZ!MA",
  "SCULINE ORDINALjH!r0fkaFq7mv!yPhkoZq3%il$wNq4!jTq6mv!lycBlMAzfh4(ag(db(w3(eJ(r5ad%ai%CzfcJ%Ezf",
  "h4(ag(db(eJ%Izfh4(ag(db(eJ%gj%Nzfw3%Ozfh4(ag(db(w3(eJ!nutG!lycBlMOzfu1%Uzfh4(ag(db(eJ%Yzfag%wJ",
  "_uglMteS%Azfh4(ag(db(w3(eJ(r5ad%ai%CzfcJ%Ezfh4(ag(db(eJ%Izfh4(ag(db(eJ%gj%Nzfw3%Ozfh4(ag(db(w3",
  "(eJ!e7tG!lyuglMOzfu1%Uzfh4(ag(db(eJ%Yzfag%wJ%YzfeJ_cBlMAzfmg>_ug_cBlMAzfcg>_ug_cBlMAzfoR>_ug_c",
  "BlMCzfag>_ug_cBlMCzfdb>_ug_cBlMCzffgad?_ug_cBlMCzfcF>_ug<_cBlMD>_ug_cBlMDzfu1>_ug_cBlMEzfmg>_u",
  "g_cBlMEzfcg>_ug_cBlMEzffgad?_ug_cBlMEzfoR>_ug_cBlMEzfcF>_ug_cBlMGzfdb>_ug_cBlMGzfcg>_ug_cBlMGz",
  "ffgad?_ug_cBlMGzfcJ>_ug_cBlMHzfdb>_ug_cBlMHzfu1>_ug_cBlMIzfw3>_ug_cBlMIzfmg>_ug_cBlMIzfcg>_ug_",
  "cBlMIzfoR>_ug_cBlMIzffgad_uglMfhI_cBlPIJ<_ug_cBlMJzfdb>_ug_cBlMKzfcJ>_ug%KRA_cBlMLzfag>_ug_cBl",
  "MLzfcJ>_ug_cBlMLzfcF>_ug_cBlMLzfmRfg?_ug_cBlMLzfu1>_ug_cBlMNzfag>_ug_cBlMNzfcJ>_ug_cBlMNzfcF>_",
  "ug&PRECEDED BYaQ_cBlMf2<_ug_cBlMOzfmg>_ug_cBlMOzfcg>_ug_cBlMOzffkag?_ug_cBlPoP<_ug_cBlMRzfag>_",
  "ug_cBlMRzfcJ>_ug_cBlMRzfcF>_ug_cBlMSzfag>_ug_cBlMSzfdb>_ug_cBlMSzfcJ>_ug_cBlMSzfcF>_ug_cBlMTzf",
  "cJ>_ug_cBlMTzfcF>_ug_cBlMTzfu1>_ug_cBlMUzfw3>_ug_cBlMUzfmg>_ug_cBlMUzfcg>_ug_cBlMUzfr5ad?_ug_c",
  "BlMUzffkag?_ug_cBlMUzfoR>_ug_cBlMWzfdb>_ug<_cBlMY>_ug_cBlMYzfeJ%Zzfag>_ug_cBlMZzffgad?_ug_cBlM",
  "ZzfcF>_ug%l4S%Bzfu1_cBlMBzfi8(TOPBAR>_ug_cBlMxctZ=_ug_cBlMo2O%Czfi8>_ug_cBlMakD%Dzfi8(TOPBAR>_",
  "ug%xUex_cBlMrAE%sG%o2E%Fzfi8>_ug<_cBlMG%hz_uglMHV_cBlMjU%Izfu1%Kzfi8>_ug%Lzfbu%LAMBDAzfu1_cBlM",
  "xUM%NzflBi8_uglMNzfl4rYlH_cBlMOzfmRw3(jb>_ug_cBlMOI<_ug_cBlMPzfi8>_ug_lMYR_cBlMxcx8=_ug_cBlMgg",
  "_lMrAggl5_uglMTzfppi8;_cBlMTzf>_ug;_cBlMTzfrx%Uzfjb>_ug_cBlMyr%Vzfi8<%Y>_ug_cBlMZzfu1>_ug_cBlM",
  "gv&rA=_ug&zfvV_lMx8zfu1_cBlMxcgW=_ug_lMjThYuVzfu1$zp$eAde;$LATERAL;$ALVEOLAR;$rx_cBlMDZzfcF<%D",
  "zfuglMZ<_uglMDZ_cBlMLJ%LzfuglMJ_uglMLJ_cBlMNJ%NzfuglMJ_uglMNJ_cBlMAzfcF>_ug<_cBlMI>_ug<_cBlMO>",
  "_ug<_cBlMU>_ug_cBlMUzfeJaDmg/_ug_cBlMUzfeJaDag/_ug_cBlMUzfeJaDcF/_ug_cBlMUzfeJaDh4/_ug%xUE_cBl",
  "MAzfeJaDmg/_ug<_cBlMAzffgad[_ug;_cBlMaizf>_ug_cBlMGzfu1>_ug_cBlMGzfcF>_ug<_cBlMK>_ug_cBlMOzfoR",
  ">_ug_cBlMOzfoRaDmg/_ug_cBlMgvzfcF>_ug<%J_cBlMDZ%DzfuglMZ_uglMDZ_cBlMGzfag>_ug_cBlMHWAIR%zp%Nzf",
  "h4>_ug_cBlMAzfr5adaDag[_ug;_cBlMaizf>_ug;_cBlMOzfu1aD/_ug_cBlMAzffkh4?_ug_cBlMAzfjTcg?_ug_cBlM",
  "Ezffkh4?_ug_cBlMEzfjTcg?_ug_cBlMIzffkh4?_ug_cBlMIzfjTcg?_ug_cBlMOzffkh4?_ug_cBlMOzfjTcg?_ug_cB",
  "lMRzffkh4?_ug_cBlMRzfjTcg?_ug_cBlMUzffkh4?_ug_cBlMUzfjTcg?_ug_cBlMSzfdrbH?_ug=_cBlMT?_ug_cBlMY",
  "OGH<_ug_cBlMHzfcF>_ug_cBlMNzfl4rYlH_uglMDzfd0_cBlMOU<_ug_cBlMZzfi8>_ug_cBlMAzffgad?_ug_cBlMEzf",
  "cJ>_ug_cBlMOzfeJaDmg/_ug<_cBlMOzfw3/_ug_cBlMOzffgad?_ug_cBlMOzffgadaDmg[_ug;_cBlMYzf>_ug%Lzfd0",
  "<%N<%T%fhJ%DBeU;%QP_cBlMAzfu1<%C>_ug_cBlMLzfbu%TzfeKu1_uglMSzfvsvV=%Z_cBlMhYuV=_ug_cBlMBzfu1%U",
  "bu%xUV%Ezfu1>_ug<_cBlMJ>_ug_cBlMugQzfi8vV>_uglM_cBlMRzfu1>_ug<_cBlMY>_ug%xUA%aw;%xU%Bzfi8%o2O%",
  "Czfd0%DzfvV(i8%rAE%sG&zfi8%o2E<%rA)zfi8%djrAo2E%fhJzfu1%Gzfi8%sIG;_lMugcB_uglMhz%RAMSjb%xUH%Hz",
  "fi8<%iT%Izfu1%jU_lMugcBI_uglMLzfmRw3(bI(rxi8%LEZH%xUM(zfl4lH%Mzfi8;%NzflB;(rx_lMugcBN_uglMbwO_",
  "lMugcBoP_uglMdjoV%pX%xUR(zfl4lH)i8%Rzfl4lH(vV(gU=%rA_lMugcBR;&jT_uglMSzfi8%gg%fhJzfu1aDi8%SQUA",
  "TrAgg%ggzfd0%xUT%Tzfrxi8%Ubu%yr%Vzfi8%xUV&W&Y;_lMugcB_uglMZzfrxi8(d0%gv&zfd0_lMhYuV$pWyLFRICAT",
  "IVE$jThYuV$u0C$bTde$ugcBB_uglMdjo2E_lMugcBGzfi8&H_uglMJzfdT%xUK_lMugcBL_uglMQzfi8_lMhYuVzfu1>$",
  "rA_uglMDZeU;%eG%DZeUzfd0%TSeU;%wg%TCeUzfd0%FENGeU;%LS;%LZ_lMbTPERCUSSIVE;$BIDENTAL_uglMxUHzfgU",
  "*aDvV!m3lMugH&zfi8%J%R;%xU(zfi8%cBjTR%W%Y$qI;$fk$xUdr$aQ$rAdr$rYilr5<$lB$hYuV<$rA$lBa0;$rY;$yn",
  ";$fo$dbae!cF!m3lMyFlS$mg$agae;$h4$l7yFlS%mg%h4ae;%ag$xAdp<$il$cNrYilr5<%lB$ynvS;$fo$qjtG;$m0!c",
  "g!fgad;!r5!oR!ugw3!fkagae!m3lMRHOTICi8$dQae$ughz%L%S%X%rAhYuV$goxcbu<$i0<$mP<$l7<$gp$zNeBxcmv=",
  "$zw$VOICING$UNASPIRATED$fkaQ$l7foa0;%yn;%lB;%rY%r5$mRh4ae<%fk;&ag$l7w3$rddp$bEi0xc<$f1;$bEl7<$",
  "f1$SHELF;$o2$l7lBaZ!dqh4ae;_ag;_db_w3_mg_pk_cg_fgad_eJ_i8ad;_r5_fkagae_cF_yFlSad=_fk$h4ae_cA_j",
  "Tcg_xUdrad<_<_rA_dradrY_h4aebH<_ag;_lBvS<_rY_lBaFad_jb_lBilr5bH;_ynvS<_fo;_qjtG<_m0;_PALATALIZ",
  "EDi8<_rx;_fg;_eJ;_r5;_dr_cJ_oR_yFlSbH;_ch;_jTfkARCH;_cF;_dbae;_cg<_jT;_w3;_mg_l7lS<_fk_w3pj;_t",
  "vu1<_l4;_tvuo<_l4_rYilr5bH;_jTch;_uA;_SEAGULL_Xad_yFw3_fkpk_h4xcmv<_ag_h7pR$ld$eMxm$zR_chad_gb",
  "tGbH;_fkyFlS;_lBaF_ouw3ad;_i7;_augaw9_lBrYaZbH<_ys_GRAPHEMEkb_rYa0ad;_lBilr5_FERMATA_XbH;_lBa0",
  "<_rY;%aDyna0$ilr5ad_fgadrY_a8bH;_fkr5_z9ad_fkcgbH%$mg%bH$w3$jTcg$r4aZbH_lyuglMA&E&I&O&U&C&D&H&",
  "M&R&T&V&X!h7cBlMHETA<_ug_cBlMaWsx=_ug_oGtG<_l9_cBlMPAMPHYLIANeR=_ug~37A_zR_ugrAmdtFvw=$fj>$rA_",
  "q6mv_cBlMYOT~384_xm;_eM;_cBlMawzf_aITELEIA_cBlMf9zfxm<%gi<%jU~38C<%oW~38E<%yr<%oV;_uglMjUzfeMa",
  "D_cBlMaw%bN%hz%ex%f9%z3%gi%wz%jU%ko%lt%nr%oC%zr%oW%p1%rD~3A3%tF%v3%yr%pX%cZ%qQ%oV%jUzfeM<%yr_u",
  "glMawzfxm<%f9<%gi<%jU;%yrzfeMaD%aw%bN%hz%ex%f9%z3%gi%wz%jU%ko%lt%nr%oC%zr%oW%p1%rD%gNtF;%%v3%y",
  "r%pX%cZ%qQ%oV%jUzfeM<%yr%oWzfxm<%yr<%oV_cBkjvw;_bN;_wz;_yrzfi8<%agaD=%eJ;_pX;_p1;_kj_lMaWlb=_u",
  "g_lMSTIGMA<_ug_lMeR<_ug_lMlb<_ug_lMsx<_ug!dIcBlMSHEI<_ug_cBlMFEI<_ug_cBlMKHEI<_ug_cBlMHORI<_ug",
  "_cBlMhC<_ug_cBlMtq<_ug_cBlMDEI<_ug!h7kovw;_rD;_mdtF_lMYOT_cBwzvw;_mdf9=_rA_cBlMtt<_ug_cBmdtFvw",
  "$lMSAN<_ug_rDzfu1vw;_cBrAmdtF=$fj>$rA!d7cBlMjwzfh4%IO%DJE%GJE%yfjw%fA%csI%zL%JE%LJE%oj%TSHE%KJ",
  "E%Izfh4%tvU%DZHE%A%bC%yB%hO%eq%jw%z6%z0%I;%tv%kg%fQ%fW%fY%O%pI%ER%ES%v6%U%EF%ig%xJ%cU%s5%tf%iE",
  "tG%zF%umtG%E%zS%zt_uglMA%bC%yB%hO%eq%jw%z6%z0%I;%tv%kg%fQ%fW%fY%O%pI%ER%ES%v6%U%EF%ig%xJ%cU%s5",
  "%tf%iEtG%zF%umtG%E%zS%zt%jwzfh4%IO%DJE%GJE%yfjw%fA%csI%zL%JE%LJE%oj%TSHE%KJE%Izfh4%tvU%DZHE_cB",
  "lMoV<_ug_cBlMzx<_ug_cBlMjWE=_ug_cBlMlUzT=_ug<_cBlMjW>_ug;_cBlMbS=_ug<_cBlMjW>_ug_cBlMKSI<_ug_c",
  "BlMqQ<_ug_cBlMgV<_ug_cBlMj0<_ug_cBlMj0zffkh4ae/_ug_cBlMUK<_ug_cBlMseoV=_ug_cBlMoVzfw8>_ug_cBlM",
  "OT<_ug_cBlMlb<_ug_wLtG!dqd7w8$PALATALIZATION$emPNEUMATA;$qS$POKRYTIE$jhwLtG;$mZ!d7cBlMtvIzfvV?",
  "_ug_cBlMSEMISOFTtG=_ug_cBlMERzfwS>_ug_cBlMhOzfUPTURN>_ug_cBlMhOzfu1>_ug_cBlMhOzfmRi8?_ug_cBlMz",
  "6zfeD>_ug<_cBlMz0>_ug<_cBlMkg>_ug_cBlMkgzfyFu1?_ug;_cBlMkgzf>_ug_cBlMBASHKIRkg=_ug_cBlMfYzfeD>",
  "_ug_cBlPfYhO=_ug_cBlMpIzfmRi8?_ug_cBlMacig=_ug_cBlMESzfeD>_ug<_cBlMv6>_ug_cBlMuWU=_ug_cBlMuWUz",
  "fu1?_ug_cBlMigzfeD>_ug_cBlPv6xJ=_ug_cBlMcUzfeD>_ug_cBlMcUzfyFu1?_ug_cBlMSHHA<_ug_cBlMaccU=_ug_",
  "cBlMaccUzfeD?_ug_lMPALOCHKA_cBlMz6zfcg>_ug_cBlMkgzfi8>_ug_cBlMfQzfvV>_ug_cBlMfYzfi8>_ug_cBlMfY",
  "zfvV>_ug_cBlMKHAKASSIANcU=_ug_cBlMfWzfvV>_ug%PALOCHKA_cBlMAzfcg>_ug_cBlMAzfeJ>_ug_cBlPAjw=_ug_",
  "cBlMjwzfcg>_ug_cBlMsG<_ug_cBlMsGzfeJ>_ug<_cBlMz6>_ug<_cBlMz0>_ug_cBlMacfA=_ug_cBlMIzfmg>_ug_cB",
  "lMIzfeJ>_ug<_cBlMO>_ug_cBlMbwO=_ug_cBlMbwOzfeJ?_ug<_cBlME>_ug_cBlMUzfmg>_ug_cBlMUzfeJ>_ug_cBlM",
  "Uzffkag?_ug_cBlMcUzfeJ>_ug_cBlMhOzfeD>_ug_cBlMzFzfeJ>_ug_cBlMhOzfu1aDi8/_ug;_cBlMigzf>_ug_cBlM",
  "igzfu1>_ug_cBlMlaeq=_ug_cBlMlaDJE=_ug_cBlMlaZJE=_ug_cBlMlaDZJE=_ug_cBlMlaLJE=_ug_cBlMlaoj=_ug_",
  "cBlMlaSJE=_ug_cBlMlaTJE=_ug_cBlMrAz0=_ug_cBlMfQzfi8>_ug_cBlMlN<_ug_cBlMrC<_ug_cBlMYAE<_ug_cBlM",
  "qW<_ug_cBlMy0<_ug_cBlMALEUTkg=_ug_cBlMfQzfmRi8?_ug=_cBlMfY?_ug_cBlMpIzfeD>_ug<_cBlMSHHA>_ug_cB",
  "lMfYzflBi8?_ug_cBlMDZZHE<_ug_cBlMDCHE<_ug_cBlMfQzfeD>_ug~531!aYcBlMAYB%BEN%GIM%d8%fG%zU%EH%ET%",
  "w9%z6%INI%LIWN%XEH%cu%KEN%i5%j2%GHAD%CHEH%mK%zL%NOW%s5%VO%cP%pM%JHEH%q8%SEH%VEW%TIWN%rq%CO%YIW",
  "N%PIWR%KEH%OH%gE~559_m3lMlBilr5_aQ_EMPHASISmv;_gl_dr_q6mv;_ab_uglMxUAYB;%%BEN%GIM%d8%fG%zU%EH%",
  "ET%w9%z6%INI%LIWN%XEH%cu%KEN%i5%j2%GHAD%CHEH%mK%zL%NOW%s5%VO%cP%pM%JHEH%q8%SEH%VEW%TIWN%rq%CO%",
  "YIWN%PIWR%KEH%OH%gE$lPfGYIWN$lMzLzfu1_hquV_jj~58D!rZaYETERNITYtG=!lC;!aYDRAM~591!HEBREWaeETNAH",
  "TA$sP$SHALSHELET$ZAQEF QATAN%GADOL$TIPEHA$REVIA$ZARQA$PASHTA$YETIV$TEVIR$GERESH%MUQDAM$hJ$QARN",
  "EY PARA$TELISHA GEDOLA$PAZER$ATNAH HAFUKH$MUNAH$MAHAPAKH$MERKHA%KEFULA$DARGA$QADMA$TELISHA QET",
  "ANA$YERAH BEN YOMO$OLE$ILUY$DEHI$ZINOR_mvMASORAc8_qmSHEVA$HATAFsP%pG%qY$HIRIQ$TSERE$sP$pG$qY$H",
  "OLAM%HASERhdyA$QUBUTS$eao7mt$METEG_qUMAQAF_qmRAFE_qUPASEQ_qmtrfg;$SIN_qUSOF PASUQ_mvyqfg;$l9_q",
  "UoIHAFUKHA_qmqYQATAN~5D0_lMar$bM$hS$ed$iH$yA$zZ$HET$wi$zP$gNki;$$lu$gNmJ;$$gNoI;$$sw$bf$gNpI;$",
  "$gNTSADI;$$QOF$rv$tr$TAV~5EF_zPxy_lPYIDDISHfkyA%yAzP;%fk_qUGERESH$hJ~600!aToFtG_tGSANAH_FOOTNO",
  "TEmy_tGSAFHA$SAMVAT_oFmvad!aUCUBE ROOT;_hj!aTRAY!aUPER MILLEtG;$wdwK;!AFGHANI!aTdr_DATEsY_POET",
  "ICyEtG_tGMISRA$ssapWASSALLAM$apASSALLAM$RAHMATULLAHap$RADI ALLAHOU ANHU$TAKHALLUS_ugi0vT%lParz",
  "flszfzA%zW$gA$ef$kw_sV_lMmv;_f1oQwn;_xDfgqU;_q6_lMKASHMIRIzA$ip$arzfmhad;&ip=$yY$arzfipbH$zAzf",
  "ipad$ar$bF$wamu%$wv$j6$ii$kM$ec$wq$rq$zW$sO$ti$sn$d9$vT$zV$am$hM$kEzfx8fiad&wNfibH$gzzAzfjTV(x",
  "8fiad<(wN_v2_lMgE$qX$ki$ls$mI$op$iR$yY$armm$zA_gB_eg_kx_gA_ef_kw_s8_ve_MADDAHad;_ip$bH_u9ar_jT",
  "ef_mvophQ_ZWARAKAY_yNtGugVad=%jT%fgbH_rAef_gAzfx8fi_yXipbH!aUeSz2$oZ$x8$wN$hh$gW$tZ$s2$fJ$of!a",
  "TpPtG_ersY;_wL_gWqnuO_lMfhbF%qX$vlar$aryU%zfyXipad)bH$i0ip&ar&yY$Uzfipad$i0ipzA$TTEH$TTEHEH$BE",
  "EH$wazfr5&wNfiadfq$pM$TEHEH$BEHEH$iizfipad;&x8fiyF$NYEH$DYEH$iizfwNfiad$v5$TCHEHEH$DDAL$eczfr5",
  "&fgbH)aDugvT$DAHAL$DDAHAL$DUL$eczfwNfiadfq&hhfiad$RREH$rqzfugV&r5&fgbH;&ugV&fgbHaDfgad;&x8fi$J",
  "EH$rqzfhhfiad;$sOzffgbHaDfg&wNfibH*aDwNfiad$snzfx8fibH&wNfiad>$vT>$am$fhgE$gEzffgMOVEDbH;($VEH",
  "$gEzfwNfibH$PEHEH$qXzffgad;&wNfi$kE$vski$kizfr5&fgad$nW$kizfwNfibH$hw%zfr5$NGOEH$hwzfx8fibH$GU",
  "EH$hwzfwNfiad$lszfugV&fgad;&wNfi)bH;$opzffg%hQ$RNOON$opzfr5&wNfiad$iRfa$v5zffgad;$iRzfzA%hZ&zf",
  "ipad$wamuhZ$yYzfr5$kToP;$$U$zS;$kT$yYzfx8fiad$yB$gzzA$zAzfvV&ugV$yYzffgad$E$zAzfwNfibH%bx&zfip",
  "ad_hquV_lMai_ugi0lPsnzflszfarmm?&qX%mIjKhe%lsar%j6%wNfi%sO_f1oQAYAH_uPoQRUBfQHIZB_ugi0sfz2;%UP",
  "RIGHTrl%fhiIoQkM%mIjXhe$l7sO$i0mh$yY$zA;$i0%op_qhoQSAJDAH_fXcMl7uV;%i0_sfi0uVzfFILLEDcM_ugl7mI",
  "_lMeczfjTV=$rq!gmaUeSz2%oZ%x8%wN%hh%gW%tZ%s2%fJ%of!aTlMtizffgbH=$d9=$hM_tGSINDHIaB%POSTPOSITIO",
  "NmK_lMiRzfjTV!vMf1oQpw_vohquV<_u8_vodp;_u8;_ja_dpt7lB%rY_vodpt7lB_u8dpt7rY_CONTRACTION_HARKLEA",
  "N OBELUS$METOBELUS$ASTERISCUS~70F_abmv_lMALAPH;$vl$bO$GAMAL%GARSHUNI$DALATH$fhDALATH RISH$iH$y",
  "Y$zW$iV$wk%GARSHUNI$YUDH%iH$kn$LAMADH$MIM$oI$SEMKATH;$gN$E$pI;$rA$so$QAPH$RISH$tr$v4$PERSIAN B",
  "HETH%GHAMAL%DHALATH_PTHAHAad$bH$fj_ZQAPHAad$bH$fj_RBASAad$bH_fjZLAMAja%ANGULAR_HBASAad$bH_HBAS",
  "A-ESASAfj_ESASAad$bH_RWAHA_FEMININEfg_QUSHSHAYA_RUKKAKHA_x8yFfiad&bH_wNfiad%bH_oOlSad%bH_MUSIC",
  "_BARREKH~74D_lMunZHAIN%KHAPH%FE!aTlMbFzfwNfiHORIZONTALLYbH&fgbHaDwNfiad&wNfiqpysbH,aDx8fiad;&x",
  "8fibHaDfg&jTugVbH&ugV$iizfx8fiad&wNfiqpysbH$eczfx8fiyGbHaDugvT&jTugVbH$rqzfu1$sOzfhhfiad<$amzf",
  "x8;&wNfiqpfq;&x8fiyG$gEzfx8fibH;&wNfiqpys$kEzffgad;&wNfi)qpysbH$mIzffgad(bH;$opzfx8fi&ugvT(V$l",
  "szfbu$rqzfx8fiyGad;&ip;$sOzfx8fiyG$iizfugaTlMvTbH+aDx8fi]$sO]$rq$iizfugaTlMvTad;$arzfgmaUeSx8;",
  "*wN;$gzzAzfgmaUeSx8;+wN+hhbH$yYzfgmaUeSx8ad;*wN;$zAbxzfgmaUeSx8;+wN$iizfgmaUeShhbH$sOzfgmaUeSh",
  "had&jTV$kizfx8fiad!THAANAlMih$SHAVIYANI$NOONU$RAA$BAA$LHAVIYANI$KAAFU$ALIFU$VAAVU$MEEMU$FAAFU$",
  "DHAALU$wp$LAAMU$GAAFU$GNAVIYANI$SEENU$DAVIYANI$ZAVIYANI$TAVIYANI$zu$PAVIYANI$JAVIYANI$CHAVIYAN",
  "I$TTAA$HHAA$KHAA$THAALU$ZAA$SHEENU$SAADHU$DAADHU$w9$ZO$AINU$GHAINU$QAAFU$WAAVU_ABAFILI_AABAAFI",
  "LI_IBIFILI_EEBEEFILI_UBUFILI_OOBOOFILI_EBEFILI_EYBEYFILI_OBOFILI_OABOAFILI_ve_lMnE~7C0!NKOeSz2",
  "$oZ$x8$wN$hh$gW$tZ$s2$fJ$of_lMA$fH$I$E$U$o1$O$DAGBASINNA$N$bg$pn$vN$j2$cP$d8$q8$sh$sm$GBA$gw$k",
  "g$ln$nDWOLOSO$me$oJ$nD$ig$yR$zt$oJWOLOSO$JONAj2%cP%q8_dqtvi0xc;%l7;%r6;$l4eE;%i0;%l7;%r6$nKmv$",
  "fkfgad_i0xcaQ<_l7_vwo1DENNEN$GBAKURUNEN_dr_glmv_LAJANYALAN~7FD_DANTAYALAN_DOROMEtG;_TAMAN!svlM",
  "ALAF$BIT$GAMAN$DALAT$IY$BAA$ZEN$IT$TIT$YUT$KAAF$LABAT$MIM$oI$SINGAAT$jD$FI$TSAADIY$QUF$RISH$tc",
  "$TAAF_mvjD$IN-ALAF$OCCLUSION$ea_m3lMEPENTHETIC YUT<_mv_yNtGl4E;%%OVERLONGaa;%l4;%%OVERLONG A;%",
  "l4;%;_m3lMtv<_yNtG%l4U;%_m3lMI;_yNtGl4;%%O%ve_mvNEQUDAA~830;_qU$AFSAAQ$ANGED$BAU$ATMAAU$SHIYYA",
  "ALAA_abmv_qUMELODIC QITSA$ZIQAA$QITSA$ZAEF$TURU$ARKAANU$SOF MASHFAAT$ANNAAU~840!MANDAIClMHALQA",
  "$AB$AG$AD$AH$USHENNA$AZ$IT$ATT$AKSA$AK$AL$AM$aC$AS$jD$AP$ASZ$AQ$AR$a4$ba$DUSHENNA$KAD$am_AFFRI",
  "CATIONmv;_VOCALIZATION;_hG~85E_qU~860!vMlMmnnX%j2%oJ%xN%ol%om%bQ%q8%lX%lY%uD~870!aTlMarzfbcgA;",
  "(xorY&rYmRu1<&lB&bckw;(b9rY(sefgad(rYsefg<(lB(sefgbH&fgad<&bcxorYgAaD=&rYmRu1=&bcb9rYkw(xorYgA",
  "aDlBr5=&rYmRu1=&bcb9rYkw(rYip;(lB;_v2zfOVERSTRUCK&yY%x8fibH_lMwCzA_BASELINEsefg<_rd_lMopzfjTug",
  "V$iizfjTugVbH;$vTzffg;&wNfi;$kEzfx8fiyG_yFvV~890_qvmvad<_PIASTRE~898_ugi0zmAL-JUZ$l7zmISHMAAM&",
  "IMAALA&TASHEEL_mhWAAJIB_vlarMOKHASSAS_fnmh;_ilmhpf_lMbFzfugVbH&ipad;$j6zfx8fi>$vT<$gEzffgbHaDw",
  "N$qXzffgbH$lszffkbu$mIzfwNfiad;$zAzfx8fibHaDip;+fg$rqzfl5$yYzffgzg$ROHINGYAzA$l7ar$eczfwNfibH>",
  "$sn$hwzfjTu1$uWyY$zWzfjTVad$amzfwNfibH;$kizffg$qXzffgbHaDonfiad;$bFzfugmI>$pM;$wazfugwa;$rqzfu",
  "gop=$zAzfx8fibHaD$akgE%qX%op$pMzfugV=$wa=$TTEH=$v5=$kE$hMzfwNfiad>$akqX>$j6)bH$lszfugaTlMvTad$",
  "GRAF_uggzzA<$i0%zAbxzfx8fibH%zmSAH%zV_lwsefgad&bH;_ve;_lwc8<$sefgjM_ugl7yY$i0zmAR-RUB%sn%am%qX",
  "%opzfkw=$l7$i0zmATH-THALATHA&AS-SAJDA&AN-NISF&SAKTA&QIF&WAQFA%FOOTNOTEmy%tGSAFHA_DISPUTEDf1oQA",
  "YAH_xUefbH_d1gA$ef$kw$gB$eg$kx_xcoZfgad;$x8fi;$l5$oZfgbH;$x8fi;$l5_o2gB$eg$kx_ugi0yY_gAzfr5%fg",
  "ad_kwzffgbH_lBa0ad<_rY_lBa0bH<_rY_fkrYa0ad(zffg?_<_ef_mvtEophQ!eFtGjTcA;$$aM$yJ_lMtvA;$$aa$I$j",
  "A$U$yv$yKR%L$czE;$tv;$$al$czO;$tv;$$bd$kg$kL$ht$hL$nX$cu$cP$j2$j7$oJ$xN$xO$en$ep$ol$vN$wo$d8$e",
  "H$nD$om$pn$pU$bg$bQ$me$zt$q8$sh$ln$lX$lY$yw$s5$uD$sm$ig_yNtGoP%OOE_tGoE$be_yNtGaa%I%jA%U%yv%yK",
  "R&sg%czE;%tv;%%al%czO;%tv;%%bd_tGyI_yNtGqJE%AW_oU_uZtGyd%aL_h4ae;_ag_yNtGczl4E%ye%UUE_lMqW$KHH",
  "A$GHHA$zU$DDDHA$rC$gw$YYA$yKsg%lW_yNtGyKL&lW_eh;_fk_eSz2$oZ$x8$wN$hh$gW$tZ$s2$fJ$of_abtG_tGi0u",
  "tfg_lMczA$oP$OOE$AW$ye$UUE$MARWARIen$z4$iPzt$hK$JJA$hYuV$eo$bB!BENGALI ANJI_tGcA$aM$yJ~985_lMA",
  "$aa$I$jA$U$yv$yKR%L~98F$E$al~993$O$bd$kg$kL$ht$hL$nX$cu$cP$j2$j7$oJ$xN$xO$en$ep$ol$vN$wo$d8$eH",
  "$nD~9AA$pn$pU$bg$bQ$me$zt$q8~9B2$ln~9B6$s5$uD$sm$ig~9BC_tGoE$be_yNtGaa%I%jA%U%yv%yKR&sg~9C7%E%",
  "al~9CB%O%bd_tGyI_lMKHANDAvN~9D7_bdlImv~9DC_lMsh$rC~9DF$YYA$yKsg%lW_yNtGyKL&lW~9E6_eSz2$oZ$x8$w",
  "N$hh$gW$tZ$s2$fJ$of_lMq8zfmReK;&l9_slmv$tG_d2oHoZ%x8%wN%hh%oZLESSwswtez$ezt0_ISSHAR_GANDAmv_lM",
  "yCaM_abtG_symv~A01!GURMUKHItGADAK BINDI;$$yJ~A05_lMA$aa$I$jA$U$yv~A0F$fH$al~A13$o1$bd$kg$kL$ht",
  "$hL$nX$cu$cP$j2$j7$oJ$xN$xO$en$ep$ol$vN$wo$d8$eH$nD~A2A$pn$pU$bg$bQ$me$zt$q8~A32$ln$lX~A35$yw$",
  "s5~A38$sm$ig~A3C_tGoE~A3E_yNtGaa%I%jA%U%yv~A47%fH%al~A4B%o1%bd_tGyI~A51$UDAAT~A59_lMKHHA$GHHA$",
  "zU$sh~A5E$gw~A66_eSz2$oZ$x8$wN$hh$gW$tZ$s2$fJ$of_TIPPI_ADDAK_IRI_URA_EK ONKAR_tGYAKASH_abtG~A8",
  "1!GUJARATItGcA$aM$yJ~A85_lMA$aa$I$jA$U$yv$yKR%L_yNczE~A8F;_lM$al_yNczO~A93;_lM$bd$kg$kL$ht$hL$",
  "nX$cu$cP$j2$j7$oJ$xN$xO$en$ep$ol$vN$wo$d8$eH$nD~AAA$pn$pU$bg$bQ$me$zt$q8~AB2$ln$lX~AB5$yw$s5$u",
  "D$sm$ig~ABC_tGoE$be_yNtGaa%I%jA%U%yv%yKR&sg%czE~AC7;%%al%czO~ACB;%%bd_tGyI~AD0_oU~AE0_lMyKsg%l",
  "W_yNtGyKL&lW~AE6_eSz2$oZ$x8$wN$hh$gW$tZ$s2$fJ$of_abtG;_sl~AF9_lMz4_tGve$s8$MADDAH$THREE-DOToEa",
  "d<$c8<$x9~B01!ORIYAtGcA$aM$yJ~B05_lMA$aa$I$jA$U$yv$yKR%L~B0F$E$al~B13$O$bd$kg$kL$ht$hL$nX$cu$c",
  "P$j2$j7$oJ$xN$xO$en$ep$ol$vN$wo$d8$eH$nD~B2A$pn$pU$bg$bQ$me$zt$q8~B32$ln$lX~B35$yw$s5$uD$sm$ig",
  "~B3C_tGoE$be_yNtGaa%I%jA%U%yv%yKR&sg~B47%E%al~B4B%O%bd_tGyI~B55$pk_allImv<_bd~B5C_lMsh$rC~B5F$",
  "YYA$yKsg%lW_yNtGyKL&lW~B66_eSz2$oZ$x8$wN$hh$gW$tZ$s2$fJ$of_ISSHAR_lMyR_hkoZq3%il$wNq4$oZt1%fL$",
  "wNt2~B82!vZtGaM$yJ~B85_lMA$aa$I$jA$U$yv~B8E$E$fH$al~B92$O$o1$bd$kg~B99$nX$cu~B9C$j2~B9E$oJ$xN~",
  "BA3$ol$vN~BA8$nD$om$pn~BAE$me$zt$q8$sh$ln$lX$lY$yw$s5$uD$sm$ig~BBE_yNtGaa%I%jA%U%yv~BC6%E%fH%a",
  "l~BCA%O%o1%bd_tGyI~BD0_oU~BD7_bdlImv~BE6_eSz2$oZ$x8$wN$hh$gW$tZ$s2$fJ$of_oFwd$oZjh%wK_DAYtG;_n",
  "i;_YEAR;_DEBIT;_dN;_ASad;_sl;_oF~C00!TELUGUtGdqcAad$cA$aM$yJ$dqaMad_lMA$aa$I$jA$U$yv$yKR%L~C0E",
  "$E$fH$al~C12$O$o1$bd$kg$kL$ht$hL$nX$cu$cP$j2$j7$oJ$xN$xO$en$ep$ol$vN$wo$d8$eH$nD~C2A$pn$pU$bg$",
  "bQ$me$zt$q8$sh$ln$lX$lY$yw$s5$uD$sm$ig~C3C_tGoE$be_yNtGaa%I%jA%U%yv%yKR&sg~C46%E%fH%al~C4A%O%o",
  "1%bd_tGyI~C55_lImv<_al~C58_lMxI$fz$RRRA~C5D$NAKAARA POLLU~C60$yKsg%lW_yNtGyKL&lW~C66_eSz2$oZ$x",
  "8$wN$hh$gW$tZ$s2$fJ$of~C77_tGtC_hkeSz2hdODD POWERSoQhh?%oZ?%x8?%wN=%oZhdEVEN?%x8?%wN_tGTUUMU!K",
  "ANNADAtGutcA;$$aM$yJ$tC_lMA$aa$I$jA$U$yv$yKR%L~C8E$E$fH$al~C92$O$o1$bd$kg$kL$ht$hL$nX$cu$cP$j2",
  "$j7$oJ$xN$xO$en$ep$ol$vN$wo$d8$eH$nD~CAA$pn$pU$bg$bQ$me$zt$q8$sh$ln$lX~CB5$yw$s5$uD$sm$ig~CBC_",
  "tGoE$be_yNtGaa%I%jA%U%yv%yKR&sg~CC6%E%fH%al~CCA%O%o1%bd_tGyI~CD5_lImv<_al~CDD_lMNAKAARA POLLU$",
  "gw~CE0$yKsg%lW_yNtGyKL&lW~CE6_eSz2$oZ$x8$wN$hh$gW$tZ$s2$fJ$of~CF1_tGj9$yp~D00!mntGdqaMad$cA$aM",
  "$yJ_lMyCaM$A$aa$I$jA$U$yv$yKR%L~D0E$E$fH$al~D12$O$o1$bd$kg$kL$ht$hL$nX$cu$cP$j2$j7$oJ$xN$xO$en",
  "$ep$ol$vN$wo$d8$eH$nD$om$pn$pU$bg$bQ$me$zt$q8$sh$ln$lX$lY$yw$s5$uD$sm$ig$TTTA_tGyFbuyI;$CIRCUL",
  "AR$be_yNtGaa%I%jA%U%yv%yKR&sg~D46%E%fH%al~D4A%O%o1%bd_tGyI_lMfgREPH_tGPARA~D54_lMCHILLU M%Y%LL",
  "L_bdlImv_hkoZo0%FORTIETH$wNfN$oZxZ%we$wNx0$oZgH_lMaWjA$yKsg%lW_yNtGyKL&lW~D66_eSz2$oZ$x8$wN$hh",
  "$gW$tZ$s2$fJ$of_oFwd$oZjh%wK_hkoZq3%il$wNq4$oZt1%fL$wNt2_DATEmv_lMCHILLU NN%N%sg%L%lW%K~D81!SI",
  "NHALAtGcA$ANUSVARAYA$VISARGAYA~D85_lMAYANNA$AAYANNA$AEYANNA$AEEYANNA$IYANNA$IIYANNA$UYANNA$UUY",
  "ANNA$IRUYANNA$IRUUYANNA$ILUYANNA$ILUUYANNA$EYANNA$EEYANNA$AIYANNA$OYANNA$OOYANNA$AUYANNA~D9A$a",
  "vKAYANNA;$mj$avGAYANNA;$mj$KANTAJAnF$sAGAYANNA$avCAYANNA;$mj$avJAYANNA;$mj$TAALUJAnF%SANYOOGA ",
  "NAAKSIKYAYA$sAJAYANNA$avTTAYANNA;$mj$avDDAYANNA;$mj$nyNAYANNA$sADDAYANNA$avTAYANNA;$mj$avDAYAN",
  "NA;$mj$eiNAYANNA~DB3$sADAYANNA$avPAYANNA;$mj$avBAYANNA;$mj$MAYANNA$AMBA BAYANNA$YAYANNA$RAYANN",
  "A~DBD$eiLAYANNA~DC0$VAYANNA$TAALUJA SAYANNA;$ny;$ei$HAYANNA$nyLAYANNA$FAYANNA~DCA_tGAL-LAKUNA~",
  "DCF_yNtGaj%kIAEDA-PILLA;%eQ%kIIS-PILLA;%eQ%kIPAA-PILLA~DD6;%eQ~DD8%hv%KOMBUVA;%eQ%KOMBU DEKA%K",
  "OMBUVAihaj;(eQ(hF;%~DE6_LITHeSz2%oZ%x8%wN%hh%gW%tZ%s2%fJ%of~DF2_yNtGeQhv&hF_qUKUNDDALIYA~E01!T",
  "HAIcRk9kj$kQKHAI%KHUAT%KHWAI%KHON%RAKHANG$n2NGU$c3CHAN%CHING%CHANG$ulul$c3CHOE$zOYING$e9CHADA$",
  "w9PATAK$wIws%NANGMONTHO%PHUTHAO$onNEN$e9DEK$w9TAO$wITHUNG%THAHAN%THONG$onoC$BO BAIMAI$qkPLA$p0",
  "PHUNG$FOgw$p0PHAN$FO FAN$p0SAMPHAO$m1me$zOYAK$r8RUA$sj$lZLING$mb$ziWAEN$ulSALA%RUSI%SUA$i5HIP$",
  "lZCHULA$OaE$i5NOKHUK$PAIYANNOI$SARA A$mlHAN-AKAT$SARAaa%AM%I%jA%ye%UEE%U%yv$PHINTHU~E3F_d2vwBA",
  "HT_cRSARA E%ai%O%alMAIMUAN&MAIMALAI$LAKKHANGYAO$MAIYAMOK$MAITAIKHU$mlEK%wI%TRI%CHATTAWA$THANTH",
  "AKHAT$NIKHAHIT$YAMAKKAN$FONGMAN_eSz2$oZ$x8$wN$hh$gW$tZ$s2$fJ$of_cRANGKHANKHU$KHOMUT~E81!LAOlMk",
  "9$kQvj~E84%vY~E86$prhL$n2$CO$prcP$ulvY~E8C$prj7$oN$proJ%xN%xO%en%ep%ol$e9$w9$wIvj%vY$preH$on$B",
  "O$qk$p0vj$FOvY;$p0$FOvj$prbQ$m1$zO$lZLING~EA5%LOOT~EA7$zi$SANSKRITs5%uD$ulvj;$i5$prlX$O$i5vY_f",
  "V_yNtGA%mlkl%aa%AM%I%jA%Y%YY%U%yv_tGpryI_yNtGmlKON_SEMIVOWELtGlZ%oN~EC0_yNtGE%EI%O%AY%al~EC6_k",
  "9ln~EC8_xcmlEK%wI%wR%CATAWA_cymv_NIGGAHITA~ED0_eSz2$oZ$x8$wN$hh$gW$tZ$s2$fJ$of~EDC_i5on$m1_lMK",
  "HMU GO%oN~F00!TIBETANvvoU_mvGTERzMmMTRUNCATED A(-UM RNAM BCADme;)GTERxL;$jKzMmMMDUN;$dkzMmMSGA",
  "B;$cEzMmMPHURs7<$zMmMxL$SBRULs7$BSKURzMmM<$BKA- SHOG$INTERSYLLABICxL$ewxLBSTAR$s7;$oM;$xL<$oM;",
  "$RIN CHEN SPUNGS;$RGYA GRAM$cE-DZUDsimCl4cw$GTERxL_LOGOTYPEtGCHADsi;%LHAG;_a9tGSGRA GCAN -CHAR",
  "%-KHYUDpn%SDONG TSHUGS_tGrhDKAR GCIG&GNYIS&GSUM%NAG GCIG&GNYIS%DKARrhNAG_eSz2$oZ$x8$wN$hh$gW$t",
  "Z$s2$fJ$of$iloZ%x8%wN%hh%gW%tZ%s2%fJ%of%z2_mvBSDUSsi$NGAS BZUNGoLZLA$cE-DZUDsiBZHI MIGcw$NGAS ",
  "BZUNG SGORsi$cUmM$xI-PHRU$GUGsiGYON&GYAS$aEKHANG GYON&GYAS_tGYAR TSHES;$MAR_lMkg$kL$ht$hL$nX$c",
  "u$cP$j2~F49$oJ$xN$xO$en$ep$ol$vN$wo$d8$eH$nD$pn$pU$bg$bQ$me$xI$xK$fz$fC$yR$z4$zU$-A$zt$q8$ln$s",
  "5$uD$sm$ig$A$lh$gXq8$KKA$sh~F71_yNtGaa%I%jA%U%yv%yKR&sg&L&lW%E%fH%O%o1_tGRJESu3nXr8$RNAM BCAD_",
  "yNtGrAI&jA_tGoLZLAnEd8$SNA LDAN_mvik$PALUTA_tGLCIsi;$zw$LCExIcw;$MCHU$GRUcwRGYINGS;%MED$jTMCHU",
  "cw;_u5tGLCExI;%MCHU<%jT$lMkg%kL%ht%hL%nX%cu%cP%j2~F99%oJ%xN%xO%en%ep%ol%vN%wo%d8%eH%nD%pn%pU%b",
  "g%bQ%me%xI%xK%fz%fC%yR%z4%zU%-A%zt%q8%ln%s5%uD%sm%ig%A%lh%gXyR&zt&q8~FBE_lisjkL&BZHI MIGcw_CAN",
  "TILLATIONtGiPBEAT;%lQ%CANG TE-U%SBUB -CHAL_vwDRILck$RDO RJE$PADMA GDAN$RDO RJE RGYA GRAM$PHURp",
  "n$oqck&oM-KHYIL;&GSUM;&BZHI~FCE_tGrhNAGrhDKAR&GSUM_mvBSKA- SHOGhRmMRGYAN=$MNYAMzM$oMxL$jKBRDA ",
  "RNYINGzMmMMDUNme;$dkBRDA RNYINGzMmMSGAB!rZSVASTItG<!lC!rZSVASTItGzffi>!lC!TIBETANmvLEADING MCH",
  "ANsi<$TRAILING~1000!nzlMkg$kL$ht$hL$nX$cu$cP$j2$j7$oJ$NNYA$xN$xO$en$ep$ol$vN$wo$d8$eH$nD$pn$pU",
  "$bg$bQ$me$zt$q8$ln$yR$sm$ig$lX$A;$tc$I$jA$U$yv$E;$m9$O$bd_yNtGvXaa;%%I%jA%U%yv%E%al%m9jA&O%Ead",
  "_tGaM$fgbH$yJ$yI$ASAT_dztGmGzt&q8&yR&ig_lMh5sm_eSz2$oZ$x8$wN$hh$gW$tZ$s2$fJ$of_tGlUsM;$_vwLOCA",
  "TIVE$COMPLETED$AFOREMENTIONED$GENITIVE_lMs5$uD$yKR%sg%L%lW_yNtGyKR&sg&L&lW_lMm9nX%j7%bB%BBE_dz",
  "tGm9mGnD(me(ln_lMSGAWkus5_yNtGSGAWkuEU_xcmvSGAWkuHATHI(kDp0_lMy3PWOkuwo(PWA_yNtGy3PWOkuEU)ye_t",
  "Gy3PWOkuxd(xe(xf(xg(xh_lMEASTERN PWOkuol(YWA(GHWA_yNtGGEBAkuI%KAYAHoP&U&fH_lMtckg%kL%ht%cu%zU%",
  "oJ%d8%nD%pU%gw%bg%wo%ig_dztGtcmGyR_yNtGtcaa&E(ad&gNY_tGtcxe%xf%xh%xi%COUNCILxe&xf&EMPHATICxc_l",
  "MRUMAIpqgw_tGRUMAIpqxh_tceSz2%oZ%x8%wN%hh%gW%tZ%s2%fJ%of_tGkNxd%xf_yNtGaoA&al_vwtcoZ%gl!hIcBlM",
  "aC%BAN%hA%DON%fY%VIN%ZEN%TAN%jD%kl%LAS%mq%NAR%oX%PAR%z5%ra%SAN%v0%UN%pV%kO%hN%QAR%tr%c2%cw%JIL",
  "%CIL%cQ%XAN%j8%HAE%iH%HIE%y0%iD%HOE~10C7%YN~10CD%AEN~10D0_lMaC$BAN$hA$DON$fY$VIN$ZEN$TAN$jD$kl",
  "$LAS$mq$NAR$oX$PAR$z5$ra$SAN$v0$UN$pV$kO$hN$QAR$tr$c2$cw$JIL$CIL$cQ$XAN$j8$HAE$iH$HIE$y0$iD$HO",
  "E$FI$YN$ELIFI$xUhA$am_pwsY!m3lMhINAR!hIlMAEN$iEtG;$LABIAL!iCCHOSEONGkX$uH$n5$wW$uM$rH$mT$p3$uJ",
  "$tO$uL$jx$c7$uE$c0$kP$wB$pY$iZ$n8$uI$ob$NIEUN-PIEUP$wY$rO$uK$rI$ks$mW$kp$p7$PIEUP-NIEUN$qd$p9$",
  "qa$qb$PIEUP-SIOS-PIEUP$PIEUP-SSANGSIOS$PIEUP-SIOS-CIEUC$p5$p4$qc$p8$kr$kt$tS$tU$tY$tW$tT$tV$SI",
  "OS-PIEUP-KIYEOK$SIOS-SSANGSIOS$SIOS-IEUNG$tQ$tP$SIOS-KHIEUKH$tX$SIOS-PHIEUPH$tR$CHITUEUMSIOS$C",
  "HITUEUMSSANGSIOS$CEONGCHIEUMSIOS$CEONGCHIEUMSSANGSIOS$pt$jy$IEUNG-TIKEUT$IEUNG-MIEUM$IEUNG-PIE",
  "UP$IEUNG-SIOS$IEUNG-PANSIOS$uG$IEUNG-CIEUC$IEUNG-CHIEUCH$IEUNG-THIEUTH$IEUNG-PHIEUPH$zG$CIEUC-",
  "IEUNG$CHITUEUMCIEUC$CHITUEUMSSANGCIEUC$CEONGCHIEUMCIEUC$CEONGCHIEUMSSANGCIEUC$CHIEUCH-KHIEUKH$",
  "CHIEUCH-HIEUH$CHITUEUMCHIEUCH$CEONGCHIEUMCHIEUCH$pZ$kq$uF$zD$KIYEOK-TIKEUT$oa$n6$n7$w0$gM;_kf$",
  "A$ai$zt$YAE$EO$E$YEO$zy$O$yR$WAE$oP$zO$U$WEO$y0$y8$zS$EU$zL$I$A-O$A-U$YA-O$YA-YO$EO-O$EO-U$EO-",
  "EU$YEO-O$YEO-U$O-EO$O-E$O-YE$O-O$O-U$YO-YA$YO-YAE$YO-YEO$YO-O$YO-I$U-A$U-AE$U-EO-EU$U-YE$U-U$Y",
  "U-A$YU-EO$YU-E$YU-YEO$YU-YE$YU-U$YU-I$EU-U$EU-EU$YI-U$I-A$I-YA$I-O$I-U$I-EU$I-ARAEA$ARAEA$ARAE",
  "A-EO$ARAEA-U$ARAEA-I$SSANGARAEA$A-EU$YA-U$YEO-YA$O-YA$O-YAE_kdkX$uH$kY$n5$n6$n7$wW$rH$rL$rN$rR",
  "$rT$rV$rQ$rI$mT$p3$p9$tO$uL$jx$c7$c0$kP$wB$pY$iZ$KIYEOK-RIEUL$KIYEOK-SIOS-KIYEOK$n8$ob$oa$n9$N",
  "IEUN-THIEUTH$wY$w0$rM$rO$rW$RIEUL-TIKEUT-HIEUH$uK$RIEUL-MIEUM-KIYEOK$RIEUL-MIEUM-SIOS$rS$RIEUL",
  "-PIEUP-HIEUH$rJ$RIEUL-SSANGSIOS$rP$rK$rX$mU$MIEUM-RIEUL$mW$mX$MIEUM-SSANGSIOS$mV$MIEUM-CHIEUCH",
  "$MIEUM-HIEUH$kp$PIEUP-RIEUL$p8$p6$kr$tS$tY$tW$tV$pt$jy$IEUNG-SSANGKIYEOK$uG$IEUNG-KHIEUKH$zG$z",
  "I$zH$pZ$kq$HIEUH-NIEUN$HIEUH-RIEUL$HIEUH-MIEUM$HIEUH-PIEUP$zD$KIYEOK-NIEUN$KIYEOK-PIEUP$KIYEOK",
  "-CHIEUCH$KIYEOK-KHIEUKH$KIYEOK-HIEUH$uI!gkvvig$jf$iX$ih$HEE$iH$i5$HOA$ln$mb$lO$LAA$LEE$lz$lZ$L",
  "WA$iW$HHU$HHI$HHAA$HHEE$HHE$HHO$HHWA$me$nr$mN$MAA$MEE$mC$m1$MWA$SZA$SZU$SZI$SZAA$SZEE$SZE$SZO$",
  "SZWA$q8$sj$rE$RAA$REE$ri$r8$RWA$sm$u3$tB$SAA$sN$sJ$ul$SWA$s5$ty$tm$SHAA$th$tg$tt$SHWA$qW$QU$QI",
  "$QAA$QEE$QE$QO$QOA$QWA~124A$QWI$QWAA$QWEE$QWE~1250$QHA$QHU$QHI$QHAA$QHEE$QHE$QHO~1258$QHWA~125",
  "A$QHWI$QHWAA$QHWEE$QHWE~1260$bg$ck$bR$BAA$bD$bC$BO$BWA$yw$VU$VI$VAA$yD$yB$VO$VWA$vN$xR$wR$vO$v",
  "9$v6$w9$TWA$cu$CU$CI$CAA$CEE$CE$CO$CWA$zq$XU$zr$XAA$XEE$XE$XO$XOA$XWA~128A$XWI$XWAA$XWEE$XWE~1",
  "290$nD$oC$n4$nE$NEE$nP$on$NWA$oJ$NYU$oL$NYAA$NYEE$NYE$oN$NYWA$hYA%U%I%aa%fH%E%O%yR$kg$li$kR$KA",
  "A$KEE$kD$k9$KOA$KWA~12B2$KWI$KWAA$KWEE$KWE~12B8$KXA$KXU$KXI$KXAA$KXEE$KXE$KXO~12C0$KXWA~12C2$K",
  "XWI$KXWAA$KXWEE$KXWE~12C8$yR$WU$y8$WAA$WEE$y0$zi$WOA$pWA%U%I%aa%fH%E%O~12D8$zU$ZU$ZI$ZAA$ZEE$z",
  "0$ZO$ZWA$z4$ZHU$ZHI$ZHAA$z7$z6$ZHO$ZHWA$zt$zS$zL$zu$zz$zy$zO$YOA$d8$fu$eI$DAA$et$eq$e9$DWA$en$",
  "DDU$DDI$DDAA$DDEE$DDE$DDO$DDWA$j2$JU$JI$JAA$j5$JE$JO$JWA$ht$id$hR$GAA$GEE$GE$GO$GOA$GWA~1312$G",
  "WI$GWAA$GWEE$GWE~1318$hK$GGU$GGI$GGAA$GGEE$GGE$GGO$GGWAA$wo$THU$wA$wp$wu$wt$wI$THWA$cP$CHU$cZ$",
  "CHAA$cW$cU$c3$CHWA$pU$PHU$pX$PHAA$PHEE$PHE$p0$PHWA$xI$TSU$xM$TSAA$TSEE$xJ$TSO$TSWA$TZA$TZU$TZI",
  "$TZAA$TZEE$TZE$TZO$TZOA$gw$FU$FI$FAA$gD$FE$FO$FWA$pn$qT$p1$PAA$pL$pI$qk$PWA$RYA$MYA$FYA~135D_d",
  "qhGaDyNlImv=$;$hG;_sM_WORDSPACE_hquV_dr_sV_dp;_PREFACE_q6mv_pwsY_eSoZ$x8$wN$hh$gW$tZ$s2$fJ$of_",
  "oFwd$x1$wG$hf$gI$t4$s4$fO$oh$jh$wdwK~1380_vvsKMWA$MWI$MWEE$MWE$sKBWA$BWI$BWEE$BWE$sKFWA$FWI$FW",
  "EE$FWE$sKPWA$PWI$PWEE$PWE_xbmvYIZET%DERET%RIKRIK;%tv%DIFAT%KENAT%CHIRET%HIDET%DERET-HIDET%KURT",
  "~13A0!CHEROKEElMA$E$I$O$U$V$ht$kg$GE$hR$GO$id$GV$ig$iH$iX$i5$jf$HV$ln$lz$lO$lZ$mb$LV$me$mC$mN$",
  "m1$nr$nD$HNA$NAH$nP$n4$on$oC$NV$QUA$QUE$QUI$QUO$QUU$QUV$sm$S$sJ$tB$ul$u3$SV$d8$vN$eq$v6$eI$wR$",
  "e9$fu$DV$DLA$TLA$TLE$TLI$TLO$TLU$TLV$xI$xJ$xM$TSO$TSU$TSV$yR$y0$y8$zi$WU$WV$zt$zy$zL$zO$zS$YV$",
  "MV~13F8_uglMzy%zL%zO%zS%YV%MV~1400!cxvujj$E$AAI$I$jA$O$o1;$zs$cHfH%I$A$aa$y0;$y2$y8;$y2$WII;$y",
  "2$zi;$y2$WOO;$y2;$nM$yR;$y2$WAA;$y2;$nM$al$zsW$hYuV$gNag%h4%b9ilr5<%xo<%rY;%%fkag&tvyFu2%mRfg%",
  "tvjau1%qj%fovS$fY$jD$oX$aC$pI$PAAI$p1$PII$qk$POO;$zs$cHHEE%iX$pn$PAA$PWE;$y2$PWI;$y2$PWII;$y2$",
  "PWO;$y2$PWOO;$y2$PWA;$y2$PWAA;$y2;$zs$P;$y2$cHH$v6$TAAI$wR$TII$w9$TOO;$zs$cHet%eI$vN$vO$TWE;$y",
  "2$TWI;$y2$TWII;$y2$x8;$y2$TWOO;$y2$TWA;$y2$TWAA;$y2;$nM$T$TTE$TTI$TTO$xN$kD$KAAI$kR$KII$k9$KOO",
  ";$zs$kg$KAA$KWE;$y2$KWI;$y2$KWII;$y2$KWO;$y2$KWOO;$y2$KWA;$y2$KWAA;$y2;$nM$K$KW$SOUTH-SLAVEY K",
  "EH%KIH%KOH%KAH$CE$CAAI$CI$CII$CO$COO;$zs$cu$CAA$CWE;$y2$CWI;$y2$CWII;$y2$CWO;$y2$CWOO;$y2$CWA;",
  "$y2$CWAA;$y2;$nM$C$sDTH$mC$MAAI$mN$MII$m1$MOO;$zs$me$MAA$MWE;$y2$MWI;$y2$MWII;$y2$MWO;$y2$MWOO",
  ";$y2$MWA;$y2$MWAA;$y2;$nM$M;$y2$MH$bbM;$sD$nP$NAAI$n4$NII$on$NOO;$zs$nD$nE$NWE;$y2$NWA;$y2$NWA",
  "A;$y2;$nM$N$cHnW$NH$lz$LAAI$lO$LII$lZ$LOO;$zs$ln$LAA$LWE;$y2$LWI;$y2$LWII;$y2$LWO;$y2$LWOO;$y2",
  "$LWA;$y2$LWAA;$y2$L;$y2;$mG$sJ$SAAI$tB$SII$ul$SOO;$zs$sm$SAA$SWE;$y2$SWI;$y2$SWII;$y2$SWO;$y2$",
  "SWOO;$y2$SWA;$y2$SWAA;$y2;$nM$S;$bb$SW$b1S$MOOSE-CREE SK$nMSKW%S-W%SPWA%STWA%SKWA%SCWA$tg$tm$t",
  "p$tt$SHOO$s5$SHAA$tA;$y2$SHWI;$y2$SHWII;$y2$SHWO;$y2$SHWOO;$y2$SHWA;$y2$SHWAA;$y2$SH$zy$YAAI$z",
  "L$YII$zO$YOO;$zs$zt$zu$YWE;$y2$YWI;$y2$YWII;$y2$YWO;$y2$YWOO;$y2$YWA;$y2$YWAA;$y2;$nM$Y;$BIBLE",
  "-CREE;$y2$sDzL$ri;$R-CREE$y2lz$RAAI$rE$RII$r8$ROO$y2lZ$q8$RAA$y2ln$RWAA;$y2$R;$y2;$mG$FE$FAAI$",
  "FI$FII$FO$FOO$gw$FAA$FWAA;$y2$F$wt;$nC$wA;$nC$THII;$nC$wI$THOO$wo$wp$THWAA;$y2$TH$TTHE$TTHI$xQ",
  "$xO$TTH$TYE$TYI$TYO$TYA$NUNAVIKiH%iX%HII%i5%HOO%ig%ih%H;$NUNAVUT$HK$QAAI$QI$QII$QO$QOO$qW$QAA$",
  "Q$TLHE$TLHI$TLHO$TLHA$y2ri%rE%r8%q8$NGAAI$NGI$NGII$n2$NGOO$nX$nY$nW$NNG$sDtg%tm%tt%s5$zlwt%wA%",
  "wI%wo%TH$LHI$LHII$LHO$LHOO$lN$LHAA$LH$TH-CREEwt%wA%THII%wI%THOO%wo%wp%TH$AIVILIK B$b1E%I%O%A%y",
  "0%y8%zi%yR%nP%n4%on%nD%kD%kR%k9%kg$sDiH%iX%i5%ig$cHGHU%GHO%hO%GHEE%GHI%hL%sj%r8%ri%REE%rE%q8%W",
  "U%zi%y0%WEE%y8%yR%HWU%HWO%HWE%HWEE%HWI%HWA%THU%wI%wt%wu%wA%wo%TTU%TTO%TTE%TTEE%TTI%xN%qT%qk%pI",
  "%pL%p1%pn%P%id%GO%GE%GEE%hR%ht%KHU%kQ%KHE%KHEE%KHI%kL%KKU%KKO%KKE%KKEE%KKI%KKA%KK%oC%on%nP%NEE",
  "%n4%nD%nr%m1%mC%MEE%mN%me%zS%zO%zy%zz%zL%zt%JU;$sD$cHJO%JE%j5%JI;$sD$cHj2%JJU%JJO%JJE%JJEE%JJI",
  "%JJA%mb%lZ%lz%LEE%lO%ln%DLU%DLO%DLE%DLEE%DLI%DLA%LHU%LHO%LHE%LHEE%LHI%lN%TLHU%TLHO%TLHE%TLHEE%",
  "TLHI%TLHA%TLU%TLO%TLE%TLEE%TLI%TLA%ZU%ZO%z0%ZEE%ZI%zU%Z;%jK%DZU%DZO%fA%DZEE%DZI%fz%u3%ul%sJ%sN",
  "%tB%sm%ty%tt%tg%th%tm%s5%SH%TSU%TSO%xJ%TSEE%xM%xI%CHU%c3%cU%cW%cZ%cP%TTSU%TTSO%TTSE%TTSEE%TTSI",
  "%TTSA$cZtG$hquV$QAI$NGAI$NNGI$NNGII$NNGO$NNGOO$NNGA$NNGAA$zlTHWEE%THWI%THWII%THWO%THWOO%THWA%T",
  "HWAA%gNTH$b1W!OGHAMusmv_lMBEITH$LUIS$FEARN$SAIL$NION$UATH$DAIR$TINNE$COLL$CEIRT$MUIN$GORT$NGEA",
  "DAL$STRAIF$RUIS$AILM$ONN$UR$EADHADH$IODHADH$EABHADH$o7$UILLEANN$IFIN$EAMHANCHOLL$PEITH_gCmv<_r",
  "A~16A0!RUNIClMFEHU FEOH FE F$V$URUZ UR U$YR$Y$W$THURISAZ THURSwJ$gj$ANSUZ A$OS O$AC A$AESC$LON",
  "G-BRANCH-OSS O;$SHORT-TWIG-OSS;$$oP$oX$RAIDO RAD REID R$KAUNA$CEN$KAUN K$G$f2$GEBO GYFU G$hD$W",
  "UNJOzpW$HAGLAZ H;$HAEGL;$LONG-BRANCH-HAGALL;$SHORT-TWIG-HAGALL$NAUDIZ NYD NAUD N;$SHORT-TWIG-N",
  "AUD$DOTTED-N$ISAZ IS ISS I$E$JERAN J$GER$LONG-BRANCH-ARai$SHORT-TWIG-AR A$IWAZ EOH$PERTHO PEOR",
  "TH P$ALGIZ EOLHX$SOWILO S;$SIGEL LONG-BRANCH-SOL;$SHORT-TWIG-SOL$C$Z$TIWAZ TIR TYR T;$SHORT-TW",
  "IG-TYR$D$BERKANAN BEORC BJARKAN B;$SHORT-TWIG-BJARKAN$DOTTED-P$OPEN-P$EHWAZ EH E$MANNAZmqM;$LO",
  "NG-BRANCH-MADR;$SHORT-TWIG-MADR$LAUKAZ LAGU LOGR L$DOTTED-L$INGWAZ$ING$DAGAZ DAEG D$OTHALAN ET",
  "HEL O$fD$IOR$CWEORTH$CALC$CEALC$STAN$LONG-BRANCH-YR$SHORT-TWIG-YR$ICELANDIC-YR$Q$X_tLqU;_nt;_d",
  "Q_ARLAUGvw;_TVIMADUR;_BELGTHOR_lMK$SH$o1$FRANKS CASKET OS&IS&EH&AC&AESC~1700!TAGALOGlMA$I$U$kg",
  "$ht$nX$vN$d8$nD$pn$bg$me$zt$q8$ln$yR$sm$ig_yNtGI%U_tGyI$PAMUDPOD~171F_lMaWq8!HANUNOOlMA$I$U$kg",
  "$ht$nX$vN$d8$nD$pn$bg$me$zt$q8$ln$yR$sm$ig_yNtGI%U_tGPAMUDPOD!PHILIPPINEtLqU;_fk~1740!BUHIDlMA",
  "$I$U$kg$ht$nX$vN$d8$nD$pn$bg$me$zt$q8$ln$yR$sm$ig_yNtGI%U~1760!TAGBANWAlMA$I$U$kg$ht$nX$vN$d8$",
  "nD$pn$bg$me$zt~176E$ln$yR$sm~1772_yNtGI%U~1780!KHMERlMkg$kL$k9$kQ$n2$cu$cP$CO$c3$oN$d8$xO$e9$x",
  "Q$NNO$vN$wo$w9$wI$on$bg$pU$qk$p0$m1$zO$r8$lZ$VO$s5$SSO$sm$ig$ln$qW_jFyNQAQ%QAA%QI%QII%QU%QUK%Q",
  "UU%QUUV%RY%RYY%LY%LYY%QE%QAI%QOO TYPEoZ(x8%QAU_yNINHERENT AQ%aa;$tG%I%jA%Y%YY%U%yv%UA%oP%zt%jw",
  "%E%ai%al%o1%bd_tGNIKAHIT$REAHMUK$YUUKALEAPINTU$MUUSIKATOAN$TRIISAP$BANTOC$ROBAT$TOANDAKHIAT$KA",
  "KABAT$AHSDA$SAMYOK SANNYA$VIRIAM$COENG$BATHAMASAT$KHAN$BARIYOOSAN$CAMNUC PII KUUH$LEK TOO$BEYY",
  "AL$PHNAEK MUAN$KOOMUUT_d2vwRIEL_tGAVAKRAHASANYA$ATTHACAN~17E0_eSz2$oZ$x8$wN$hh$gW$tZ$s2$fJ$of~",
  "17F0_vwLEK ATTAK SON&MUOY&PII&BEI&BUON&PRAM&qC&qD&qA&qB~1800!nabW_fV_dr_hquV_dp_hhfi_TODOumjj_",
  "SIBEvvBOUNDARYmy_mrdr$hquV_NIRUGU_FREEyzsQoZ&x8&wN_yNsY_FREEyzsQhh_eSz2$oZ$x8$wN$hh$gW$tZ$s2$f",
  "J$of~1820_lMA$E$I$O$U$oP$ye$fH$nD$aE$bg$pn$qW$ht$me$ln$sm$s5$vN$d8$cP$j2$zt$q8$yR$gw$kg$kL$xI$",
  "zU$ih$ZRA$lN$ZHI$cZ$TODOl4yNtG%E%I%O%U%oP%ye%aE%bg%pn%qW%ht%me%vN%d8%cP%j2%xI%zt%yR%kg%GAA%ih%",
  "JIA%NIA%fz$SIBE E%I%IY%ye%U%aE%kg%ht%ig%pn%s5%vN%d8%j2%gw%GAA%ih%xI%zU%RAA%cP%z4$mrI%kg%q8%gw%",
  "z4$cPzfx8fi~1880$athyaMoZ;&yJ&DAMARU&UBADAMA;&jT&BALUDA;&wN&A&I&kg&nX&cu&xN&xO&en&ol&vN&d8&pn&",
  "pU&uD&z4&zU&AH$TODOathyvN(z4$mrathyhL(nX(cu(j7(xN(ep(vN(eH(uD(CYA(z4(zU$athyilU(zt$mrathybQ$at",
  "hyDAGALGA$mrathylN~18B0!cxvuOY$AY$AAY$WAY$POY$PAY$PWOY$TAY$KAY$KWAY$MAY$NOY$NAY$LAY$SOY$SAY$SH",
  "OY$SHAY$SHWOY$YOY$YAY$RAY$NWI;$oS$NWII;$oS$NWO;$oS$NWOO;$oS$RWEE$RWI$RWII$RWO$RWOO$RWA$oSP%T%K",
  "%C%M%N%S%SH$EASTERN W;$y3$gNugr5%rdfg$R-CREE RWE$y2LOO%LAA$THWE$THWA$TTHWE$TTHOO$xP$TLHWE$TLHO",
  "O$sDtA%SHOO%HOO$cHGWU%DENE GEE%GAA%GWA$sDJUU$cHJWA$BEAVER DENE L&R$cHeAS~1900!LIMBU VOWEL-CARR",
  "IERlM_lMkg$kL$ht$hL$nX$cu$cP$j2$j7$YAN$vN$wo$d8$eH$nD$pn$pU$bg$bQ$me$zt$q8$ln$yR$s5$uD$sm$ig$G",
  "YAN$TRA~1920_yNtGA%I%U%fH%al%o1%bd%E%O_u5lMzt%q8%yR~1930_uglMkg%nX%aM%vN%nD%pn%me%q8%ln_tGMUKP",
  "HRENG$KEMPHRENG$SA-I~1940$LOO~1944_glmv;_q6_eSz2$oZ$x8$wN$hh$gW$tZ$s2$fJ$of!vUlzlMkg%zq%nX%xI%",
  "sm%zt%vN%wo%ln%pn%pU%me%gw%yw%ig%qW%kL%xK%nD%A%I%fH%EH%U%o1%O%ye%E%AUE%al~1970%xe%xf%xg%xh%xi~",
  "1980!NEWvULUElMi0qW;&l7&i0kg(zq(nX&l7kg(zq(nX&i0xI(sm(zt&l7xI(sm(zt&i0vN(wo(nD&l7vN(wo(nD&i0pn",
  "(pU(me&l7pn(pU(me&i0gw(yw(ln&l7gw(yw(ln&i0ig(d8(bg&l7ig(d8(bg&i0KVA(XVA&l7KVA(XVA&i0SUA;&l7~19",
  "B0%yNtGyNSHORTENER(aa(jA(U(yv(E(ai(O(OA(ye(AY(AAY(UY(OY(OAY(UEY(IY%lMgNV(nW(N(M(K(D(B%xcmw&mx~",
  "19D0%eSz2&oZ&x8&wN&hh&gW&tZ&s2&fJ&of%wreSoZ~19DE%tGLAE&LAEV!KHMERvwPATHAMASAT$MUOY KOET;$PII;$",
  "BEI;$BUON;$PRAM;$qC;$qD;$qA;$qB;$DAP;$DAP-MUOY;$DAP-PII;$DAP-BEI;$DAP-BUON;$DAP-PRAM$TUTEYASAT",
  "$MUOY ROC;$PII;$BEI;$BUON;$PRAM;$qC;$qD;$qA;$qB;$DAP;$DAP-MUOY;$DAP-PII;$DAP-BEI;$DAP-BUON;$DA",
  "P-PRAM!BUGINESElMkg$ht$nX$NGKA$pn$bg$me$MPA$vN$d8$nD$NRA$cu$j2$oJ$NYCA$zt$q8$ln$yw$sm$A$ig_yNt",
  "GI%U%E%O%ai~1A1E_PALLAWA_f1oQsM!vUwrlMi0kg&kL&KXA%l7kg&KXA&kL%nX%i0cu&cP%l7cu&sm&cP%oJ%RATA%i0",
  "rf%d8%l7rf%RANA%i0vN&wo%l7vN&wo%nD%bg%i0pn&pU&gw%l7pn&gw&pU%me%l7zt;%i0%q8%RUE%ln%LUE%yR%i0s5&",
  "uD&sm&ig%lX%A%l7ig%I%jA%U%yv%fH%o1%LAE%h5sm$dztGmGq8(ln&lnTANG LAI;$tGmlkm$dztGgNnX&l7pn<&i0rf",
  "o7&me&bg&sm~1A60$tGSAKOT$yNtGA&mlSAT&aa;&vX&I&jA&ye&UUE&U&yv&O&OAbH&OY&E&ai&o1&al;&wr&OAad$tGm",
  "lkm%xd%xe%KHUENxf&xg&xh%q8HAAM%mlSAM%KHUEN-LUE KARAN~1A7F$dqdXfg$HORAeSz2&oZ&x8&wN&hh&gW&tZ&s2",
  "&fJ&of~1A90$wreSz2&oZ&x8&wN&hh&gW&tZ&s2&fJ&of~1AA0$tGWIANG%WIANGWAAK%SAWAN%KEOW%HOY%DOKMAI%rAs",
  "bRANA%mlYAMOK%KAAN%KAANKUU%SATKAAN%SATKAANKUU%HANG%CAANG~1AB0!dqfndbae_DIAERESIS-RING_jI_fqaZ_",
  "xDfg_X-XbH;_zclS;_o2mv=_fk;_lQcLu1=_STRONG_pAad<_fk_pAbH$pj_lyuglMWbH<&xU_lBpBadlB_rYpBadrY_lB",
  "pBbHlB_rYpBbHrY_uABRACKETSad;_oFtG;_jTfkARCH;_qjtG=_fk&bH_xDagae_lyuglMjNG(R(T~1B00!BALINESEtG",
  "ULU RICEM%cz$CECEK$SURANG$BISAH_lMAKARA%v8$IKARA%v8$UKARA%v8$q8rs&v8$lnLENGA&v8$EKARA$AIKARA$O",
  "KARA%v8$kg%mk$ht%GORA$nX$cu%LACA$j2%JERA$oJ$vNLATIK%nvmk$d8nvALPAPRANA&mk$nDRAMBAT$vN%TAWA$d8%",
  "MADU$nD$pn%KAPAL$bg%KEMBANG$me$zt$q8$ln$yR$smSAGA%SAPA%$ig_tGREREKAN_yNtGv8%ULU&SARI%SUKU&ILUT",
  "%q8rs(v8%lnLENGA(v8%TALING&rs&v8;&rs%PEPET&v8_ahah_lMkiSASAK;$KHOT;$TZIR;$EF;$yB;$ZAL;$ASYURA$",
  "aWJNYA~1B50_eSz2$oZ$x8$wN$hh$gW$tZ$s2$fJ$of_PANTI_PAMADA_WINDU_CARIK PAMUNGKAH$SIKI$PAREREN_PA",
  "MENENG_nxvwDONG%DENG%DUNG%DANG&SURANG%DING%DAENG%DEUNG%DAING%DANG GEDE%dqTEGEH&ENDEP&KEMPUL&KE",
  "MPLI&JEGOGAN;&KEMPULzf<&KEMPLI&BENDE&GONG%RIGHT-HANDo2fv(DAG&djTUK(TAK%LEFT-HANDo2PANG(PUNG&dj",
  "PLAK(PLUK&o2PING_PANTI LANTANG;_PAMADA~1B80!vitGPANYECEK$PANGLAYAR$PANGWISAD_lMA$I$U$ai$O$E$EU",
  "$kg$qW$ht$nX$cu$j2$zU$oJ$vN$d8$nD$pn$gw$yw$bg$me$zt$q8$ln$yR$sm$zq$ig_dztGPAMINGKAL%PANYAKRA%P",
  "ANYIKU_yNtGPANGHULU%PANYUKU%PANAELAENG%PANOLONG%PAMEPET%PANEULEUNG_tGPAMAAEH$yI_dztGPASANGANme",
  "&yR_lMkL$SYA_eSz2$oZ$x8$wN$hh$gW$tZ$s2$fJ$of_be_lMREU$LEU$bQ$gNK%M!BATAKlMA;$tI$ig;$tI;$ms$bg;",
  "$KARO$pn;$tI$nD;$ms$yR;$tI;$PAKPAK$ht;$tI$j2$d8$q8;$tI$me;$tI$SOUTHERNvN;$NORTHERN$sm;$tI;$ms$",
  "zt;$tI$nX$ln;$tI$oJ$cu$nN$MBA$I$U_tGTOMPI_yNtGE;%PAKPAK%fH%I;%KARO%O;%KARO%U&hdtIsm_dztGnW%H_P",
  "ANGOLAT_PANONGONAN~1BFC_vwbUnDMETEK%PINARBORAS%JUDUL%PANGOLAT!LEPCHAlMkg$KLA$kL$ht$GLA$nX$cu$c",
  "P$j2$oJ$vN$wo$d8$nD$pn$PLA$pU$gw$FLA$bg$BLA$me$MLA$xI$xK$fz$zt$q8$ln$ig$HLA$yw$sm$s5$yR$A_u5lM",
  "zt%q8_yNtGaa%I%O%o1%U%yv%E_dztGK%M%L%N%P%R%T%NYIN-DO%km_tGRAN$oE~1C3B_qUTA-ROL;$NYET THYOOM$CE",
  "R-WA;$TSHOOK%_eSz2$oZ$x8$wN$hh$gW$tZ$s2$fJ$of~1C4D_lMxN$xO$en!OL CHIKIeSz2%oZ%x8%wN%hh%gW%tZ%s",
  "2%fJ%of$lMln%ba%AG%aE%AL%LAA%AAK%AAJ%AAM%AAW%lO%IS%IH%INY%IR%mb%UC%yc%UNN%UY%lz%EP%EDD%fY%ERR%",
  "lZ%OTT%OB%OV%OH$nrTTUDDAG$GAAHLAA TTUDDAAG;$MU-GAAHLAA$RELAA$PHAARKAA$AHAD$qUMUCAAD;%fk!d7uglM",
  "sfyB%LONG-LEGGEDeq%nJO%y9ES%vXv6;%THREE-LEGGED%vXiEtG&zx%UNBLENDED UK~1C90!hIMTAVRULIcBlMaC&BA",
  "N&hA&DON&fY&VIN&ZEN&TAN&jD&kl&LAS&mq&NAR&oX&PAR&z5&ra&SAN&v0&UN&pV&kO&hN&QAR&tr&c2&cw&JIL&CIL&",
  "cQ&XAN&j8&HAE&iH&HIE&y0&iD&HOE&FI&YN&ELIFI&xUhA&am~1CBD&AEN&iEtG;&LABIAL!viqUbUSURYA%PANGLONG%",
  "PURNAMA%CAKRA%LEU SATANGA;%kg;%d8;%bg~1CD0!yCxcKARSHANA$SHARA$PRENKHA_tGNIHSHVASA$zvMIDLINEvq;",
  "_xczvAGGRAVATEDjF<%<%kA$czbH$zvkAjFvqSCHROEDER$fkvq;$xD$kAaL$fgbH;$x8fi<$wN$RIGVEDIC KASHMIRIj",
  "Fvq<$ATHARVAVEDIC;_tGyJ%yd<$rA$yJaL<$rA$yJydzfvV<%aL$aMaJ%BAHIRGOMUKHA%VAMAGOMUKHA&zfvV$TIRYAK",
  "$HEXIFORMl4aM<$<$RTHANG$aMUBHAYATO MUKHA$ARDHAVISARGA;$sb_xcczad_tGj9$yp$ATIKRAMA_xcr5ad<$fk_t",
  "GfkaMaJ~1D00!lylMugcBA&ai;_uglMxU_lMugcBbwB&C&D&gj&E;_uglMxUo2&I_lMugcBJ&K&Lzfu1&M&rAN&O;&o2;_",
  "uglMtE;&o2&Ozfu1%xUoP_lMugcBOU_uglMxoilO<%b9_lMugcBP&rAR;&xU&T&U;_uglMtE;&DIAERESIZED&xUM_lMug",
  "cBV&W&Z&gv$yLLARYNGEAL SPIRANT$am!h7lMugcBhz&lt&p1&rD&qQ!d7lMugcBfQ!m3lMcBA%ai%B;%bw%D%E;%rA%G",
  "%H%I%J%K%L%M%N;%rA%O%OU%P%R%T%U%W$ugA;%xU%aw%xUai%B%D%E%sG%o2E<%xU%G%xUI%K%M%f2%O;%o2;%xoil<%b",
  "9%P%T%U;%tE%xUM%V%am%bN%h7hz%ex%h7pX%cZ!lyu9uglMI&R&U&V!h7u9uglMbN&hz&rD&pX&cZ!lyuglMye%BzfmRw",
  "3=%D=%F=%M=%N=%P=%R<(gUaD<%Szf=%T=%Z%xUG!m3lMd7fY!lyuglMjNG%THzfSTRIKETHROUGH$cBlMIzfu1<$lMjU<",
  "%P<$cBlMU<$lMyr%Bzfppi8=%D=%F=%G=%K=%L=%M=%N=%P=%R=%S=%gg=%V=%X=%Z;%Azfrx=%aw%Dzfi8aDvV%Ezfrxi",
  "8>%o2?%rA=%sG=%I=%o2O=%gg=%U=%gv!m3lMugxUaw%C&zfd0%gj%rAo2E%F%fhJzfu1%sIG%xUH%Izfu1%jU%cBI(zfu",
  "1%JzfdT%Lzfrxi8;(pp%cBL%Mzfi8%xUMzfl4lH%NzflBi8;(rx%cBN%bwO%pX%Szfi8%gg%Tzfppi8%Ubu%yr%cBU%Vzf",
  "i8%xUV%Z&zfrxi8(d0%gv%wz!dqfjh4ae;$ag_ujbH_vpmv_MACRON-ACUTE_GRAVE-MACRON_MACRON-GRAVE_ACUTE-M",
  "ACRON_GRAVE-ACUTE-GRAVE_ACUTE-GRAVE-ACUTE_lyuglMRbH_BREVE-MACRON_MACRON-BREVE_fkdbad;_oR_z9bH;",
  "_IS_URad;_US;_lyuglMg1o2A&ai&AO&AV&CcJ&jND&gj&G;$lMugcB$uglMK&L;$lMugcB(M$uglMN;$lMugcB(R$uglM",
  "R ROTUNDA&S;&l4&Z&aw&B&bN&sG&F&LzffkmRw3&OzflQcLu1&P&gg&UzflQcLu1&W&AzfeJ<&O<&U_ynvSad_kCadrY%",
  "lB<_fg_y9jTchbH_fgbHlB_DELETIONmv_fkjTcgbH;_augaw9_lBa0ad_rYa0aDfoa0bH;!lycBlMAzfr5?_ug_cBlMBz",
  "ffgad?_ug_cBlMBzffgbH?_ug;_cBlMBzflS?_ug_cBlMCzfcJaDag/_ug_cBlMDzffgad?_ug_cBlMDzffgbH?_ug;_cB",
  "lMDzflS?_ug_cBlMDzfcJ>_ug_cBlMDzfdbbH?_ug_cBlMEzfmgaDh4/_ug_cBlMEzfmgaDag/_ug_cBlMEzfdbbH?_ug;",
  "_cBlMEzfw3?_ug_cBlMEzfcJaDcg/_ug_cBlMFzffgad?_ug_cBlMGzfmg>_ug_cBlMHzffgad?_ug_cBlMHzffgbH?_ug",
  "_cBlMHzfeJ>_ug_cBlMHzfcJ>_ug_cBlMHzfcgbH?_ug;_cBlMIzfw3?_ug_cBlMIzfeJaDag/_ug;_cBlMKzf>_ug_cBl",
  "MKzffgbH?_ug;_cBlMKzflS?_ug;_cBlMLzffg?_ug_cBlMLzffgbHaDmg[_ug_cBlMLzflSbH?_ug;_cBlMLzfdb?_ug_",
  "cBlMMzfag>_ug_cBlMMzffgad?_ug_cBlMMzffgbH?_ug_cBlMNzffgad?_ug_cBlMNzffgbH?_ug;_cBlMNzflS?_ug;_",
  "cBlMNzfdb?_ug_cBlMOzfw3aDag/_ug_cBlMOzfw3aDeJ/_ug_cBlMOzfmgaDh4/_ug_cBlMOzfmgaDag/_ug;_cBlMPzf",
  ">_ug_cBlMPzffgad?_ug=_cBlMR?_ug_cBlMRzffgbH?_ug_cBlMRzffgbHaDmg[_ug_cBlMRzflSbH?_ug_cBlMSzffga",
  "d?_ug_cBlMSzffgbH?_ug_cBlMSzfagaDfgad[_ug=_cBlMSzfcF[_ug=_cBlMSzffgbH]_ug<_cBlMTzf?_ug_cBlMTzf",
  "fgbH?_ug;_cBlMTzflS?_ug;_cBlMTzfdb?_ug;_cBlMUzfeJ?_ug;_cBlMUzfw3?_ug;_cBlMUzfdb?_ug_cBlMUzfw3a",
  "Dag/_ug_cBlMUzfmgaDeJ/_ug_cBlMVzfw3>_ug_cBlMVzffgbH?_ug_cBlMWzfh4>_ug_cBlMWzfag>_ug_cBlMWzfeJ>",
  "_ug_cBlMWzffgad?_ug_cBlMWzffgbH?_ug_cBlMXzffgad?_ug_cBlMXzfeJ>_ug_cBlMYzffgad?_ug_cBlMZzfdb>_u",
  "g_cBlMZzffgbH?_ug;_cBlMZzflS?_ug=%H%TzfeJ%Wzfr5ad=%Y%AzfrYilr5%l4Szffgad)eKu1;)i0_cBlMteS_uglM",
  "ex_cBlMAzffgbH?_ug_cBlMAzfi8ad?_ug_cBlMAzfdbaDag/_ug_cBlMAzfdbaDh4/_ug_cBlMAzfdbaDi8ad[_ug_cBl",
  "MAzfdbaDw3/_ug_cBlMAzfdbaDfgbH[_ug_cBlMAzfcgaDag/_ug_cBlMAzfcgaDh4/_ug_cBlMAzfcgaDi8ad[_ug_cBl",
  "MAzfcgaDw3/_ug_cBlMAzfcgaDfgbH[_ug<_cBlMEzf?_ug_cBlMEzfi8ad?_ug_cBlMEzfw3>_ug_cBlMEzfdbaDag/_u",
  "g_cBlMEzfdbaDh4/_ug_cBlMEzfdbaDi8ad[_ug_cBlMEzfdbaDw3/_ug_cBlMEzfdbaDfgbH[_ug_cBlMIzfi8ad?_ug_",
  "cBlMIzffgbH?_ug=_cBlMO?_ug_cBlMOzfi8ad?_ug_cBlMOzfdbaDag/_ug_cBlMOzfdbaDh4/_ug_cBlMOzfdbaDi8ad",
  "[_ug_cBlMOzfdbaDw3/_ug_cBlMOzfdbaDfgbH[_ug_cBlMOzfjbaDag/_ug_cBlMOzfjbaDh4/_ug_cBlMOzfjbaDi8ad",
  "[_ug_cBlMOzfjbaDw3/_ug_cBlMOzfjbaDfgbH[_ug<_cBlMUzf?_ug_cBlMUzfi8ad?_ug_cBlMUzfjbaDag/_ug_cBlM",
  "UzfjbaDh4/_ug_cBlMUzfjbaDi8ad[_ug_cBlMUzfjbaDw3/_ug_cBlMUzfjbaDfgbH[_ug_cBlMYzfh4>_ug_cBlMYzff",
  "gbH?_ug_cBlMYzfi8ad?_ug_cBlMYzfw3>_ug_cBlMmSlW=_ug_cBlMmSV=_ug_cBlMYzfl5>_ug!h7uglMawzfqS(em(q",
  "SaDyx<(em(qSaDpl<(em(qSaDpR<(em_cBlMawzfqS(em(qSaDyx<(em(qSaDpl<(em(qSaDpR<(em_uglMf9zfqS(em(q",
  "SaDyx<(em(qSaDpl<(em~1F18_cBlMf9zfqS(em(qSaDyx<(em(qSaDpl<(em~1F20_uglMgizfqS(em(qSaDyx<(em(qS",
  "aDpl<(em(qSaDpR<(em_cBlMgizfqS(em(qSaDyx<(em(qSaDpl<(em(qSaDpR<(em_uglMjUzfqS(em(qSaDyx<(em(qS",
  "aDpl<(em(qSaDpR<(em_cBlMjUzfqS(em(qSaDyx<(em(qSaDpl<(em(qSaDpR<(em_uglMoWzfqS(em(qSaDyx<(em(qS",
  "aDpl<(em~1F48_cBlMoWzfqS(em(qSaDyx<(em(qSaDpl<(em~1F50_uglMyrzfqS(em(qSaDyx<(em(qSaDpl<(em(qSa",
  "DpR<(em~1F59_cBlMyrzfem~1F5B)aDyx~1F5D*pl~1F5F*pR_uglMoVzfqS(em(qSaDyx<(em(qSaDpl<(em(qSaDpR<(",
  "em_cBlMoVzfqS(em(qSaDyx<(em(qSaDpl<(em(qSaDpR<(em_uglMawzfyx(pl%f9zfyx(pl%gizfyx(pl%jUzfyx(pl%",
  "oWzfyx(pl%yrzfyx(pl%oVzfyx(pl~1F80%awzfqSaDzR<(em<(qSaDyx>(em<(qSaDpl>(em<(qSaDpR>(em_cBlMawzf",
  "qSaDqO<(em<(qSaDyx>(em<(qSaDpl>(em<(qSaDpR>(em_uglMgizfqSaDzR<(em<(qSaDyx>(em<(qSaDpl>(em<(qSa",
  "DpR>(em_cBlMgizfqSaDqO<(em<(qSaDyx>(em<(qSaDpl>(em<(qSaDpR>(em_uglMoVzfqSaDzR<(em<(qSaDyx>(em<",
  "(qSaDpl>(em<(qSaDpR>(em_cBlMoVzfqSaDqO<(em<(qSaDyx>(em<(qSaDpl>(em<(qSaDpR>(em_uglMawzfyO(mg(y",
  "xaDzR;(;(plaD~1FB6(pR)aDzR_cBlMawzfyO(mg(yx(pl(qO_ld_qO_qS_pR;_eMaD_uglMgizfyxaDzR;(;(plaD~1FC",
  "6(pR)aDzR_cBlMf9zfyx(pl%gizfyx(pl(qO_qSaDyx%pl%pR_uglMjUzfyO(mg(eMaDyx*pl~1FD6(pR;(eMaD_cBlMjU",
  "zfyO(mg(yx(pl~1FDD_emaDyx%pl%pR_uglMyrzfyO(mg(eMaDyx*pl%rDzfqS(em%yrzfpR;(eMaD_cBlMyrzfyO(mg(y",
  "x(pl%rDzfem_eMaDyx%pl_yx~1FF2_uglMoVzfyxaDzR;(;(plaD~1FF6(pR)aDzR_cBlMoWzfyx(pl%oVzfyx(pl(qO_p",
  "l_em"]

end Taxonomy.Text.Names
