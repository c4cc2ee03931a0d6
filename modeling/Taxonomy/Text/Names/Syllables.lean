/-!
# Names of characters: syllables

The scripts of East Asia and the forms for compatibility, in the form that `Text.Names` reads.
-/

namespace Taxonomy.Text.Names

/-- The scripts of East Asia and the forms for compatibility, in rows. -/
def syllables : List String := [
  "~3000!jvus_dr_hquV!DITTOmv!j4INDUSTRIAL STANDARDvw!jvjZmv;_dk_oFz2!lBaFcc<!rY<!lBfk=!rY;!lBdK<",
  "!rY<!lBy7=!rY;!lBbYlK=!rY!qumv;!GETA!lBxqtkcc=!rY;!lBy7lK=!rY;!lBy7xqtk>!rY;!lBy7uA=!rY!yWek!r",
  "AfkqIq7mv>!>!l7!qumvgx!HANGZHOUoGoZ$x8$wN$hh$gW$tZ$s2$fJ$of!jvLEVELxcmv<_r6<_eB<_ENTERING<!iCt",
  "Lfg=_fk!yXek!yFKANArtmv;%zfyLup%mvyqil=%zfyLup;%mvl9!c9qumv!jvwblSFEEDsYvw!HANGZHOUoGwd$x1$wG!",
  "yFjvjZmv;!MASU;!PART ALTERNATION!jvyzjH_ilgLus~3041!i3lMugA;$$ugI;$$ugU;$$ugE;$$ugO;$$kg$ht$kR",
  "$hR$li$id$kD$GE$k9$GO$sm$zU$tB$ZI$u3$ZU$sJ$z0$ul$ZO$vN$d8$wR$eI$ugxR;$$fu$v6$eq$w9$e9$nD$n4$oC",
  "$nP$on$ig$bg$pn$iX$bR$p1$jf$ck$qT$iH$bC$pI$i5$BO$qk$me$mN$nr$mC$m1$ugzt;$$ugzS;$$ugzO;$$q8$rE$",
  "sj$ri$r8$ugyR;$$y8$y0$zi$N$VU$ugkg%kD~3099!dqkzyLupmv<$sR<!kzyL<_sR;!i3jZ<_yL_eUYORI!kzfkjj!ky",
  "lMugA;$$ugI;$$ugU;$$ugE;$$ugO;$$kg$ht$kR$hR$li$id$kD$GE$k9$GO$sm$zU$tB$ZI$u3$ZU$sJ$z0$ul$ZO$vN",
  "$d8$wR$eI$ugxR;$$fu$v6$eq$w9$e9$nD$n4$oC$nP$on$ig$bg$pn$iX$bR$p1$jf$ck$qT$iH$bC$pI$i5$BO$qk$me",
  "$mN$nr$mC$m1$ugzt;$$ugzS;$$ugzO;$$q8$rE$sj$ri$r8$ugyR;$$y8$y0$zi$N$VU$ugkg%kD$yw$VI$yB$VO_mRfg",
  "!kzqMupmv;!kyjZ<_yL_eUKOTO~3105!BOPOMOFOlMB$P$M$F$D$T$N$L$G$K$H$J$Q$X$ZH$CH$SH$R$Z$C$S$A$O$E$E",
  "H$al$EI$bd$OU$aC$fY$aE$f2$ER$I$U$IU$V$nW$GN$IH$Ozffgad$NN~3131!iClMkX$uH$kY$n5$n6$n7$wW$uM$rH$",
  "rL$rN$rR$rT$rV$rQ$rI$mT$p3$uJ$p9$tO$uL$jx$c7$uE$c0$kP$wB$pY$iZ$A$ai$zt$YAE$EO$E$YEO$zy$O$yR$WA",
  "E$oP$zO$U$WEO$y0$y8$zS$EU$zL$I_gM_lMuI$ob$oa$n9$rM$rW$rS$rP$rX$mW$mX$mV$kp$p7$qd$qa$qb$p5$qc$k",
  "r$kt$tS$tU$tY$tV$tQ$pt$uG$zG$zI$zH$kq$uF$zD$YO-YA$YO-YAE$YO-I$YU-YEO$YU-YE$YU-I$ARAEA$ARAEAE~3",
  "190!jvaHLINKINGmv;$rz;$oZ;$x8;$wN;$hh;$xo;$mR;$b9;$gS;$sL;$wD;$hj;$iO;$fE;$mq!BOPOMOFOlMck$ZI$",
  "JI$id$fH$ENN$o1$ONN$IR$ANN$INN$UNN$IM$NGG$AINN$AUNN$AM$oU$ONG$INNN_gNlMP%T%K%H_lMGH$LH$ZY_gNlM",
  "G_lMGW$KW$oP$AH!CJKu1T$WG$XG$BXG$SW$HZZ$HZG$HP$HZWG$SZWG$HZT$HZZP$HPWG$HZW$HZZZ$N$H$S$P$SP$D$H",
  "Z$HG$SZ$SWZ$ST$SG$PD$PZ$TN$SZZ$SWG$HXWG$HZZZG$PG$Q~31F0!kylMugli%tB%u3%w9%oC%ig%iX%jf%iH%i5%nr",
  "%q8%rE%sj%ri%r8!pCiCkX$n5$wW$rH$mT$p3$tO$jx$c7$c0$kP$wB$pY$iZ$kXA;$n5;$wW;$rH;$mT;$p3;$tO;$jx;",
  "$c7;$c0;$kP;$wB;$pY;$iZ$c7U_lccROJEON%Ojf~3220_jroZ$x8$wN$hh$gW$tZ$s2$fJ$of$wd$nj$gR$yV$WOOD$M",
  "ETAL$fE$vh$uT$HAVE$SOCIETY$nI$SPECIAL$gO$dw$LABOR$REPRESENT$CALL$STUDY$vn$f4$RESOURCE$ALLIANCE",
  "$FESTIVAL$rw$SELF$REACH!c9jrq6$KINDERGARTEN$sF$KOTO_oFwdoXbYuA=$x1=$wG=$hf=$gI=$t4=$s4=$fO!pFt",
  "G!c9oFx1oZ%x8%wN%hh%gW%tZ%s2%fJ%of$wG%oZ%x8%wN%hh%gW_iCkX$n5$wW$rH$mT$p3$tO$jx$c7$c0$kP$wB$pY$",
  "iZ$kXA;$n5;$wW;$rH;$mT;$p3;$tO;$jx;$c7;$c0;$kP;$wB;$pY;$iZ_lccRCHAMKO%JUEUI_iCjxU!lcSTANDARDvw",
  "!c9jroZ$x8$wN$hh$gW$tZ$s2$fJ$of$wd$nj$gR$yV$WOOD$METAL$fE$vh$uT$HAVE$SOCIETY$nI$SPECIAL$gO$dw$",
  "LABOR$SECRET$mo$gF$SUITABLE$EXCELLENT$PRINT$ATTENTION$ITEM$rw$COPY$CORRECT$i0$cM$l7$lB$rY$MEDI",
  "CINE$RELIGION$STUDY$vn$f4$RESOURCE$ALLIANCE$oc_oFwGtZ%s2%fJ%of$hf%oZ%x8%wN%hh%gW%tZ%s2%fJ%of$g",
  "I!jvwbvwhdJANUARY&FEBRUARY&MARCH&APRIL&MAY&JUNE&JULY&AUGUST&SEPTEMBER&OCTOBER&NOVEMBER&DECEMBE",
  "R!uAHG_ERG_EV!LIMITED LIABILITYtG!c9kyA$I$U$E$O$kg$kR$li$kD$k9$sm$tB$u3$sJ$ul$vN$wR$xR$v6$w9$n",
  "D$n4$oC$nP$on$ig$iX$jf$iH$i5$me$mN$nr$mC$m1$zt$zS$zO$q8$rE$sj$ri$r8$yR$y8$y0$zi!uAERAnIREIWA_A",
  "PAATO_ARUHUA_ANPEA_AARU_ININGU_INTI_UON_ESUKUUDO_EEKAA_ONSU_OOMU_KAIRI_KARATTO_KARORII_GARON_G",
  "ANMA_GIGA_GINII_KYURII_GIRUDAA_KIRO_KIROGURAMU_KIROMEETORU_KIROWATTO_GURAMU_GURAMUTON_KURUZEIR",
  "O_KUROONE_KEESU_KORUNA_KOOPO_SAIKURU_SANTIIMU_SIRINGU_SENTI_SENTO_DAASU_DESI_DORU_TON_NANO_NOT",
  "TO_HAITU_PAASENTO_PAATU_BAARERU_PIASUTORU_PIKURU_PIKO_BIRU_HUARADDO_HUIITO_BUSSYERU_HURAN_HEKU",
  "TAARU_PESO_PENIHI_HERUTU_PENSU_PEEZI_BEETA_POINTO_BORUTO_HON_PONDO_HOORU_HOON_MAIKURO_MAIRU_MA",
  "HHA_MARUKU_MANSYON_MIKURON_MIRI_MIRIBAARU_MEGA_MEGATON_MEETORU_YAADO_YAARU_YUAN_RITTORU_RIRA_R",
  "UPII_RUUBURU_REMU_RENTOGEN_WATTO!jvwbvwhdHOURz2(oZ(x8(wN(hh(gW(tZ(s2(fJ(of(wd(fU(xY(wF(hi(gG(t",
  "0(s3(fK(og(x1(x5(x7(x6(x4!uAHPA_d8_bd_bu_OV_PC_DM$uB$CUBED_IU_ERAnIHEISEI%SYOUWA%TAISYOU%MEIZI",
  "_CORPORATION_pnAMPS_nD_nrA_me_kg_KB_MB_GB_CAL_KCAL_PF_NF_nrF$G_MG_KG_HZ_KHZ_MHZ_GHZ_THZ_nrL_ML",
  "_DL_KL_FM_NM_nrM_MM_CM_KM_MMuB;_CM;_M;_KM_MM CUBED;_CM;_M;_KM_MpfS&uB_pn_KPA_MPA_GPA_RAD$pfS&u",
  "B_PS_NS_nrS_MS_PV_NV_nrV_MV_KV_MV MEGA_PW_NW_nrW_MW_KW_MW MEGA_K OHM;_M_AM_BQ_CC_CD_CpfKG_CO_D",
  "B_GY_ig_HP_jD_KK_KMcB_KT_LM_LN_LOG_LX_MBug_MIL_MOL_PH_PM_PPM_PR_SR_SV_WB_VpfM<_A!jvwbvwhdDAYoZ",
  "(x8(wN(hh(gW(tZ(s2(fJ(of(wd(fU(xY(wF(hi(gG(t0(s3(fK(og(x1(x5(x7(x6(x4(x3(TWENTY-SIX(TWENTY-SEV",
  "EN(TWENTY-EIGHT(TWENTY-NINE(wG(THIRTY-ONE!uAhx~4DC0!HEXAGRAMhdwtCREATIVEiO%RECEPTIVEfE$DIFFICU",
  "LTYbawtBEGINNING$YOUTHFUL FOLLY$WAITING$CONFLICT$wtARMY$i6xa$ugTAMING$TREADING$pJ$STANDSTILL$F",
  "ELLOWSHIP$h5qt$MODESTY$ENTHUSIASM$ha$WORKoXwtDECAYED$APPROACH$CONTEMPLATION$BITINGwO$GRACE$SPL",
  "ITTING APART$ry$INNOCENCE$h5TAMING$nmdL$h5qG$wtABYSMALyV%CLINGINGgR$INFLUENCE$DURATION$RETREAT",
  "$h5qz$PROGRESS$ejoQwtlQ$wtFAMILY$o6$OBSTRUCTION$DELIVERANCE$DECREASE$jE$BREAKTHROUGH$COMINGw9M",
  "EET$hExa$PUSHING UPWARD$OPPRESSION$wtWELL$REVOLUTION$wtCAULDRON%AROUSINGwQ%KEEPING STILLnk$DEV",
  "ELOPMENT$wtMARRYING MAIDEN$ABUNDANCE$wtWANDERER%GENTLEzd%JOYOUS LAKE$DISPERSION$LIMITATION$INN",
  "ER TRUTH$ugqG$AFTERdt;$BEFORE~A000!zLvvIT$IX$I$IP$IET$IEX$jw$IEP$ba$AX$A$AP$UOX$UO$UOP$OT$OX$O",
  "$OP$EX$E$WU$BIT$BIX$bR$BIP$BIET$BIEX$BIE$BIEP$BAT$BAX$bg$BAP$BUOX$BUO$BUOP$BOT$cb$BO$BOP$BEX$b",
  "C$BEP$cq$BUX$ck$BUP$BURX$cp$BYT$BYX$BY$BYP$BYRX$BYR$PIT$PIX$p1$PIP$PIEX$PIE$PIEP$PAT$PAX$pn$pu",
  "$PUOX$PUO$PUOP$POT$POX$qk$POP$PUT$PUX$qT$PUP$PURX$PUR$PYT$PYX$PY$PYP$PYRX$PYR$BBIT$BBIX$BBI$BB",
  "IP$BBIET$BBIEX$BBIE$BBIEP$BBAT$BBAX$bB$BBAP$BBUOX$BBUO$BBUOP$BBOT$BBOX$BBO$BBOP$BBEX$BBE$BBEP$",
  "BBUT$BBUX$BBU$BBUP$BBURX$BBUR$BBYT$BBYX$BBY$BBYP$NBIT$NBIX$NBI$NBIP$NBIEX$NBIE$NBIEP$NBAT$NBAX",
  "$NBA$NBAP$NBOT$NBOX$NBO$NBOP$NBUT$NBUX$NBU$NBUP$NBURX$NBUR$NBYT$NBYX$NBY$NBYP$NBYRX$NBYR$HMIT$",
  "HMIX$HMI$HMIP$HMIEX$HMIE$HMIEP$HMAT$HMAX$HMA$HMAP$HMUOX$HMUO$HMUOP$HMOT$HMOX$HMO$HMOP$HMUT$HMU",
  "X$HMU$HMUP$HMURX$HMUR$HMYX$HMY$HMYP$HMYRX$HMYR$MIT$MIX$mN$MIP$MIEX$MIE$MIEP$MAT$MAX$me$MAP$MUO",
  "T$MUOX$MUO$MUOP$MOT$MOX$m1$MOP$MEX$mC$MUT$MUX$nr$MUP$MURX$MUR$MYT$MYX$MY$MYP$FIT$FIX$FI$FIP$FA",
  "T$FAX$gw$FAP$FOX$FO$FOP$FUT$FUX$FU$FUP$FURX$FUR$FYT$FYX$FY$FYP$VIT$VIX$VI$VIP$VIET$VIEX$VIE$VI",
  "EP$VAT$VAX$yw$VAP$VOT$VOX$VO$VOP$VEX$VEP$VUT$VUX$VU$VUP$VURX$VUR$VYT$VYX$VY$VYP$VYRX$VYR$DIT$D",
  "IX$eI$DIP$DIEX$DIE$DIEP$DAT$DAX$d8$DAP$DUOX$DUO$fg$DOX$e9$DOP$DEX$eq$DEP$DUT$DUX$fu$DUP$DURX$D",
  "UR$TIT$TIX$wR$w7$TIEX$TIE$TIEP$TAT$TAX$vN$TAP$TUOT$TUOX$TUO$TUOP$TOT$TOX$w9$xo$TEX$v6$TEP$TUT$",
  "TUX$xR$TUP$TURX$TUR$DDIT$DDIX$DDI$DDIP$DDIEX$DDIE$DDIEP$DDAT$DDAX$en$DDAP$DDUOX$DDUO$DDUOP$DDO",
  "T$DDOX$DDO$DDOP$DDEX$DDE$DDEP$DDUT$DDUX$DDU$DDUP$DDURX$DDUR$NDIT$NDIX$NDI$NDIP$NDIEX$NDIE$NDAT",
  "$NDAX$nN$NDAP$NDOT$NDOX$NDO$NDOP$NDEX$NDE$NDEP$NDUT$NDUX$NDU$NDUP$NDURX$NDUR$HNIT$HNIX$HNI$HNI",
  "P$HNIET$HNIEX$HNIE$HNIEP$HNAT$HNAX$HNA$HNAP$HNUOX$HNUO$HNOT$HNOX$HNOP$HNEX$HNE$HNEP$HNUT$NIT$N",
  "IX$n4$NIP$NIEX$NIE$NIEP$NAX$nD$NAP$NUOX$NUO$NUOP$ou$NOX$on$NOP$NEX$nP$NEP$NUT$NUX$oC$NUP$NURX$",
  "NUR$HLIT$HLIX$HLI$HLIP$HLIEX$HLIE$HLIEP$HLAT$HLAX$HLA$HLAP$HLUOX$HLUO$HLUOP$HLOX$HLO$HLOP$HLEX",
  "$HLE$HLEP$HLUT$HLUX$HLU$HLUP$HLURX$HLUR$HLYT$HLYX$HLY$HLYP$HLYRX$HLYR$LIT$LIX$lO$LIP$LIET$LIEX",
  "$LIE$LIEP$LAT$LAX$ln$LAP$LUOT$LUOX$LUO$LUOP$LOT$LOX$lZ$LOP$LEX$lz$LEP$LUT$LUX$mb$LUP$LURX$LUR$",
  "LYT$LYX$LY$LYP$LYRX$LYR$GIT$GIX$hR$GIP$GIET$GIEX$GIE$GIEP$GAT$GAX$ht$GAP$GUOT$GUOX$GUO$GUOP$GO",
  "T$GOX$GO$GOP$GET$GEX$GE$GEP$GUT$GUX$id$GUP$GURX$GUR$KIT$KIX$kR$KIP$KIEX$KIE$KIEP$KAT$KAX$kg$KA",
  "P$KUOX$KUO$KUOP$KOT$KOX$k9$KOP$kH$KEX$kD$KEP$KUT$KUX$li$KUP$KURX$lk$GGIT$GGIX$GGI$GGIEX$GGIE$G",
  "GIEP$GGAT$GGAX$hK$GGAP$GGUOT$GGUOX$GGUO$GGUOP$GGOT$GGOX$GGO$GGOP$GGET$GGEX$GGE$GGEP$GGUT$GGUX$",
  "GGU$GGUP$GGURX$GGUR$MGIEX$MGIE$MGAT$MGAX$MGA$MGAP$MGUOX$MGUO$MGUOP$MGOT$MGOX$mM$MGOP$MGEX$MGE$",
  "MGEP$MGUT$MGUX$MGU$MGUP$MGURX$MGUR$HXIT$HXIX$HXI$HXIP$HXIET$HXIEX$HXIE$HXIEP$HXAT$HXAX$HXA$HXA",
  "P$HXUOT$HXUOX$HXUO$HXUOP$HXOT$HXOX$HXO$HXOP$HXEX$HXE$HXEP$NGIEX$NGIE$NGIEP$NGAT$NGAX$nX$NGAP$N",
  "GUOT$NGUOX$NGUO$NGOT$NGOX$n2$NGOP$NGEX$NGE$NGEP$HIT$HIEX$HIE$iG$HAX$ig$HAP$HUOT$HUOX$HUO$HUOP$",
  "HOT$HOX$i5$HOP$HEX$iH$HEP$WAT$WAX$yR$WAP$WUOX$WUO$WUOP$WOX$zi$WOP$WEX$y0$WEP$ZIT$ZIX$ZI$ZIP$ZI",
  "EX$ZIE$ZIEP$ZAT$ZAX$zU$ZAP$ZUOX$ZUO$ZUOP$ZOT$ZOX$ZO$ZOP$ZEX$z0$ZEP$ZUT$ZUX$ZU$ZUP$ZURX$ZUR$ZYT",
  "$ZYX$ZY$ZYP$ZYRX$ZYR$CIT$CIX$CI$CIP$CIET$CIEX$CIE$CIEP$cI$CAX$cu$CAP$CUOX$CUO$CUOP$COT$COX$CO$",
  "COP$CEX$CE$CEP$CUT$CUX$CU$CUP$CURX$CUR$CYT$CYX$CY$CYP$CYRX$CYR$ZZIT$ZZIX$ZZI$ZZIP$ZZIET$ZZIEX$",
  "ZZIE$ZZIEP$ZZAT$ZZAX$ZZA$ZZAP$ZZOX$ZZO$ZZOP$ZZEX$ZZE$ZZEP$ZZUX$ZZU$ZZUP$ZZURX$ZZUR$ZZYT$ZZYX$Z",
  "ZY$ZZYP$ZZYRX$ZZYR$NZIT$NZIX$NZI$NZIP$NZIEX$NZIE$NZIEP$NZAT$NZAX$NZA$NZAP$NZUOX$NZUO$NZOX$NZOP",
  "$NZEX$NZE$NZUX$NZU$NZUP$NZURX$NZUR$NZYT$NZYX$NZY$NZYP$NZYRX$NZYR$SIT$tZ$tB$SIP$SIEX$SIE$SIEP$S",
  "AT$SAX$sm$SAP$SUOX$SUO$SUOP$SOT$SOX$ul$SOP$SEX$sJ$SEP$SUT$SUX$u3$SUP$SURX$SUR$SYT$SYX$SY$SYP$S",
  "YRX$SYR$SSIT$SSIX$SSI$SSIP$SSIEX$SSIE$SSIEP$SSAT$SSAX$uD$SSAP$SSOT$SSOX$SSO$SSOP$SSEX$SSE$SSEP",
  "$SSUT$SSUX$SSU$SSUP$SSYT$SSYX$SSY$SSYP$SSYRX$SSYR$ZHAT$ZHAX$z4$ZHAP$ZHUOX$ZHUO$ZHUOP$ZHOT$ZHOX",
  "$ZHO$ZHOP$ZHET$ZHEX$z6$ZHEP$ZHUT$ZHUX$ZHU$ZHUP$ZHURX$ZHUR$ZHYT$ZHYX$ZHY$ZHYP$ZHYRX$ZHYR$CHAT$C",
  "HAX$cP$CHAP$CHUOT$CHUOX$CHUO$CHUOP$CHOT$CHOX$c3$CHOP$CHET$CHEX$cU$CHEP$CHUX$CHU$CHUP$CHURX$CHU",
  "R$CHYT$CHYX$CHY$CHYP$CHYRX$CHYR$RRAX$sh$RRUOX$RRUO$RROT$RROX$RRO$RROP$RRET$RREX$RRE$RREP$RRUT$",
  "RRUX$RRU$RRUP$RRURX$RRUR$RRYT$RRYX$RRY$RRYP$RRYRX$RRYR$NRAT$NRAX$NRA$NRAP$NROX$NRO$NROP$NRET$N",
  "REX$NRE$NREP$NRUT$NRUX$NRU$NRUP$NRURX$NRUR$NRYT$NRYX$NRY$NRYP$NRYRX$NRYR$SHAT$SHAX$s5$SHAP$SHU",
  "OX$SHUO$SHUOP$SHOT$SHOX$tt$SHOP$SHET$SHEX$tg$SHEP$SHUT$SHUX$ty$SHUP$SHURX$SHUR$SHYT$SHYX$SHY$S",
  "HYP$SHYRX$SHYR$RAT$RAX$q8$RAP$RUOX$RUO$RUOP$ROT$ROX$r8$ROP$REX$ri$REP$RUT$RUX$sj$RUP$RURX$RUR$",
  "RYT$RYX$RY$RYP$RYRX$RYR$JIT$JIX$JI$JIP$JIET$JIEX$JIE$JIEP$JUOT$JUOX$JUO$JUOP$ke$JOX$JO$JOP$JUT",
  "$JUX$JU$JUP$JURX$JUR$JYT$JYX$JY$JYP$JYRX$JYR$QIT$QIX$QI$QIP$QIET$QIEX$QIE$QIEP$QUOT$QUOX$QUO$Q",
  "UOP$QOT$QOX$QO$QOP$QUT$QUX$QU$QUP$QURX$QUR$QYT$QYX$QY$QYP$QYRX$QYR$JJIT$JJIX$JJI$JJIP$JJIET$JJ",
  "IEX$JJIE$JJIEP$JJUOX$JJUO$JJUOP$JJOT$JJOX$JJO$JJOP$JJUT$JJUX$JJU$JJUP$JJURX$JJUR$JJYT$JJYX$JJY",
  "$JJYP$NJIT$NJIX$NJI$NJIP$NJIET$NJIEX$NJIE$NJIEP$NJUOX$NJUO$NJOT$NJOX$NJO$NJOP$NJUX$NJU$NJUP$NJ",
  "URX$NJUR$NJYT$NJYX$NJY$NJYP$NJYRX$NJYR$NYIT$NYIX$oL$NYIP$NYIET$NYIEX$NYIE$NYIEP$NYUOX$NYUO$NYU",
  "OP$NYOT$NYOX$oN$NYOP$NYUT$NYUX$NYU$NYUP$XIT$XIX$zr$XIP$XIET$XIEX$XIE$XIEP$XUOX$XUO$XOT$XOX$XO$",
  "XOP$XYT$XYX$XY$XYP$XYRX$XYR$YIT$YIX$zL$YIP$YIET$YIEX$YIE$YIEP$YUOT$YUOX$YUO$YUOP$YOT$YOX$zO$YO",
  "P$YUT$YUX$zS$YUP$YURX$YUR$YYT$YYX$YY$YYP$YYRX$YYR~A490_q9QOT$lO$KIT$NYIP$CYP$SSI$GGOP$GEP$mN$H",
  "XIT$LYR$BBUT$MOP$zO$PUT$HXUO$TAT$ht$ZUP$CYT$DDUR$cp$GGUO$NYOP$xR$OP$JJUT$ZOT$PYT$HMO$YIT$VUR$S",
  "HY$VEP$zU$JO$NZUP$JJY$GOT$JJIE$zi$fu$SHUR$LIE$CY$CUOP$CIP$HXOP$SHAT$ZUR$SHOP$cU$ZZIET$NBIE$kD~",
  "A4D0!LISUlMbg$pn$pU$d8$vN$wo$ht$kg$kL$j2$cu$cP$fz$xI$xK$me$nD$ln$sm$z4$zU$nX$ig$zq$iW$gw$yR$s5",
  "$zt$hL$A$ai$E$EU$I$O$U$ye$UH$oP$xcMYAwR%nDqk%MYA CYA&BO&nD&JEU_qUdr$hquV!VAIvvfH$EEN$HEE$WEE$W",
  "EEN$pL$BHEE$bD$MBEE$KPEE$MGBEE$GBEE$gD$yD$v9$wu$DHEE$DHHEE$LEE$REE$et$NDEE$sN$th$ZEE$z7$CEE$j5",
  "$ok$zz$KEE$NGGEE$GEE$MEE$NEE$NYEE$I$jD$iX$HIN$y8$WIN$p1$BHI$bR$MBI$KPI$MGBI$GBI$FI$VI$wR$wA$DH",
  "I$DHHI$lO$rE$eI$NDI$tB$tm$ZI$ZHI$CI$JI$NJI$zL$kR$NGGI$hR$mN$n4$oL$A$aC$NGAN$ig$HAN$yR$WAN$pn$b",
  "Q$bg$MBA$KPA$KPAN$MGBA$GBA$gw$yw$vN$wo$eH$DHHA$ln$q8$d8$nN$sm$s5$zU$z4$cu$j2$NJA$zt$kg$kl$nZ$h",
  "t$me$nD$oJ$o1$OON$HOO$WOO$WOON$POO$BHOO$BOO$MBOO$KPOO$MGBOO$GBOO$FOO$VOO$TOO$THOO$DHOO$DHHOO$L",
  "OO$ROO$DOO$NDOO$SOO$SHOO$ZOO$ZHOO$COO$JOO$NJOO$YOO$KOO$n1$GOO$MOO$NOO$NYOO$U$UN$jf$HUN$WU$WUN$",
  "qT$BHU$ck$MBU$KPU$MGBU$GBU$FU$VU$xR$THU$DHU$DHHU$mb$sj$fu$NDU$u3$ty$ZU$ZHU$CU$JU$NJU$zS$li$NGG",
  "U$id$nr$oC$NYU$O$oX$NGON$i5$HON$zi$WON$qk$BHO$BO$MBO$KPO$MGBO$GBO$GBON$FO$VO$w9$wI$DHO$DHHO$lZ",
  "$r8$e9$NDO$ul$tt$ZO$ZHO$CO$JO$NJO$zO$k9$NGGO$GO$m1$on$oN$E$fY$NGEN$iH$HEN$y0$WEN$pI$BHE$bC$MBE",
  "$KPE$KPEN$MGBE$GBE$GBEN$FE$yB$v6$wt$DHE$DHHE$lz$ri$eq$NDE$sJ$tg$z0$z6$CE$JE$oj$zy$kD$NGGE$n0$G",
  "E$GEN$mC$nP$NYE$nW$lJ_dr_hquV_q6mv_vvNDOLEgw%kg%SOO_vwFEENG$KEENG$TING$NII$BANG$FAA$vO$DANG$DO",
  "ONG$KUNG$TONG$DO-O$JONG_eSz2$oZ$x8$wN$hh$gW$tZ$s2$fJ$of_vvNDOLEme%e9~A640!d7cBlMZEMLYA<_ug_cBl",
  "MfB<_ug_cBlMrAfA=_ug_cBlMjU<_ug_cBlMDJERV<_ug_cBlMngUK=_ug_cBlMBROADoV=_ug_cBlMnUYER=_ug;_cBlM",
  "zFzfbi?_ug_cBlMjWzx=_ug_cBlMrAzS=_ug_cBlMjWA=_ug_cBlMdjlUzT>_ug;_cBlMBLENDED=_ug;_cBlMjWdjlU?_",
  "ug_cBlMYN<_ug_cBlMrAxJ=_ug_cBlMumeq=_ug_cBlMumfQ=_ug_cBlMumfW=_ug_cBlMncO=_ug;_cBlMBINOCULAR=_",
  "ug;_cBlMfknc>_ug;_lMMULTIOCULAR!dqd7VZMET$wdmZtG<$jh<$wK!SLAVONICa8!dqd7lMyfjw%I%zL%U%iEtG%zF%",
  "umtG%oV$kC$PAYEROK!d7kC_PAYEROK_cBlMDWE<_ug_cBlMDZWE<_ug_cBlMZHWE<_ug_cBlMCCHE<_ug_cBlMDZZE<_u",
  "g_cBlMv6zfmRi8?_ug_cBlMTWE<_ug_cBlMTSWE<_ug_cBlMTSSE<_ug_cBlMTCHE<_ug_cBlMHWE<_ug_cBlMtA<_ug_c",
  "BlMfkO=_ug;_cBlMdS=_ug!m3lMd7iEtG;%um!dqd7lMEF%jWE!BAMUMlMA$kg$U$li$fH$REE$TAE$O$oL$I$ln$pn$RI",
  "I$RIEE$LEEEE$MEEEE$vO$nO$NJAEM$M$SUU$nr$tp$tB$SHEUX$SEUX$lm$kH$NUAE$oC$NJUAE$YOQ$ty$YUQ$zt$NSH",
  "A$KEUX$PEUX$ok$NTEE$PUE$WUE$pL$gD$sj$mb$mN$n4$REUX$ra$KEN$NGKWAEN$nZ$nX$tt$PUAE$FU$FOM$yR$nD$l",
  "O$p1$LOQ$k9$MBEN$REN$mK$me$wR$kR$m1$mB$wi$KPA$wd$NTUU$SAMBA$FAAMAE$KOVUU$KOGHOM_dqmvKOQNDON%TU",
  "KWENTIS_NJAEMLI_hquV_dp_dr_sV_q6mv~A700!m3lMCHINESExczNPING;&zw&zNSHANG;&zw&zNQU;&zw&zNsj;&zw$",
  "gofjxcbu=$i0=$mP=$l7=$gp<$gofjLEFT-STEM>$i0>$mP>$l7>$gp=$go=$i0=$mP=$l7=$gp;$fgyF%ub%jabu$l9rY",
  "dKaF$rdynaZ;%fo%glmv<%jT=$l7$uZaDi0xc;&l7!lycBlMfIar=_ug_cBlMfIam=_ug_cBlMiT<_ug_cBlMTZ<_ug_cB",
  "lMTRESILLO<_ug_cBlMdY<_ug_cBlMdYzfdr>_ug_lMugcBF&S_cBlMaa<_ug_cBlMAO<_ug_cBlMbd<_ug_cBlMAV<_ug",
  "_cBlMAVzfjabu?_ug_cBlMAY<_ug_cBlMrACzffg?_ug_cBlMKzfu1>_ug;_cBlMKzfeK?_ug<_cBlMKzfu1aD[_ug_cBl",
  "MciL=_ug_cBlMLzfi0u1?_ug_cBlMOzfl4u1pj/_ug_cBlMOzfl5>_ug_cBlMo1<_ug_cBlMPzfu1wOeD/_ug_cBlMPzfg",
  "5>_ug_cBlMPzfSQUIRRELvV?_ug_cBlMQzfu1wOeD/_ug_cBlMQzfeKu1?_ug_cBlMR ROTUNDA=_ug;_cBlMRUM=_ug_c",
  "BlMVzfeKu1?_ug_cBlMVY<_ug_cBlMVISIGOTHIC Z=_ug_cBlMwJzfu1>_ug_cBlMwJzfu1wOeD/_ug_cBlMVEND<_ug_",
  "cBlMET<_ug_cBlMIS<_ug_cBlMCON<_ug!m3lMUS!lyuglMDUM%mc%MUM%NUM%RUM;_lMugcB_uglMTUM%UM_cBlMjND=_",
  "ug_cBlMjNF=_ug_cBlMjNG<%xU>_ug_cBlMxUL=_ug_cBlMjNR=_ug_cBlMjNS=_ug_cBlMjNT=_ug!m3lMl7dbae$dp$t",
  "vgbtG!lycBlMSALTILLO<_ug_cBlMxUH_uglMLzfrxi8aDbI_lMSINOLOGICALfg_cBlMNzfeD>_ug_cBlMCzfbu>_ug(p",
  "pi8=%H_cBlMBzfg5>_ug_cBlMFzfu1>_ug_cBlMyMai=_ug_cBlMyMoP=_ug_cBlMyMye=_ug_cBlMGzfoOu1?_ug=_cBl",
  "MK?_ug=_cBlMN?_ug=_cBlMR?_ug=_cBlMS?_ug_cBlMHzfi8%rAo2E%sIG%LzfbI%ugcBI_lMugcBQ_cBlMxUK&T%Jzfd",
  "T%cZ%bN<_ug_cBlMoV<_ug_cBlMUzfu1>_ug_cBlMhYA=_ug_cBlMhYI=_ug_cBlMhYU=_ug_cBlMoTPOLISH O>_ug_cB",
  "lMANGLICANA W=_ug_cBlMCzfppi8;%Szf;%Zzfpp%Dzftvu1pj/_ug>_cBlMS/_ug~A7D0_cBlMdjjNG>_ug~A7D3%fkw",
  "J~A7D5&zp_cBlMmRSCOTS S>_ug;_cBlMSIGMOID=_ug~A7F2!m3lMcBC%F%Q!lycBlMrAilH>_ug_f8lMtEI!m3lMcBHz",
  "fu1$uglPoP!lylMugcBxUM_f8lMrAF&P%jTM%I LONGA%aWM!SYLOTI NAGRIlMA%I$tGDVISVARA$lMU%E%O$tGHASANT",
  "A$lMk9%kQ%GO%GHO$tGaM$lMCO%c3%JO%JHO%TTO%xQ%DDO%DDHO%w9%wI%e9%DHO%on%qk%p0%BO%BHO%m1%r8%lZ%RRO",
  "%ul%i5$yNtGA&I&U&E&o1$POETRYmw%mx%MARK-3%MARK-4$tGayHASANTA~A830!osINDIChkoZq3&il%wNq4%oZt1&fL",
  "%wNt2$q3mv;$qi;$sl;$QUANTITY~A840!PHAGS-PAlMkg$kL$ht$nX$cu$cP$j2$oJ$vN$wo$d8$nD$pn$pU$bg$me$xI",
  "$xK$fz$yR$z4$zU$ugA$zt$q8$ln$s5$sm$ig$A$I$U$E$O$qW$zq$gw$hK$fH_u5lMyR%zt_lMxN$xO$en$ol$ayzt$VO",
  "ICELESSs5$yLig$ASPIRATEDgw_u5lMq8<_SUPERFIXED_lMcA_tLiImv<_fk_mvs7;$fk~A880!SAURASHTRAtGaM$yJ_",
  "lMA$aa$I$jA$U$yv$yKR%sg%L%lW$E$fH$al$O$o1$bd$kg$kL$ht$hL$nX$cu$cP$j2$j7$oJ$xN$xO$en$ep$ol$vN$w",
  "o$d8$eH$nD$pn$pU$bg$bQ$me$zt$q8$ln$yw$s5$uD$sm$ig$lX_dztGHAARU_yNtGaa%I%jA%U%yv%yKR&sg&L&lW%E%",
  "fH%al%O%o1%bd_tGyI$cA~A8CE_eh;_fk_eSz2$oZ$x8$wN$hh$gW$tZ$s2$fJ$of~A8E0!dqeFeSz2%oZ%x8%wN%hh%gW",
  "%tZ%s2%fJ%of$lMA%U%kg%nD%pn%q8%VI$tGbe!eFtGutcA$cAyI<$fk$cAx8%wN%be$PUSHPIKA_GAPgM_cE_iK_tGtC_",
  "JAINoU_lMAY;_yNtG!KAYAHlOeSz2%oZ%x8%wN%hh%gW%tZ%s2%fJ%of$lMkg%kL%ht%nX%sm%s5%zU%oJ%vN%HTA%nD%p",
  "n%pU%me%d8%bg%q8%zt%ln%yR%wo%ig%yw%cu%A%oP%I%o1$yNye%E%U%fH%O$xcPLOPHU%CALYA&PLOPHU$tGCWI%SHYA",
  "!REJANGlMkg$ht$nX$vN$d8$nD$pn$bg$me$cu$j2$oJ$sm$q8$ln$zt$yR$ig$MBA$nZ$nN$NYJA$A_yNtGI%U%E%al%O",
  "%bd%EU%EA_dztGnW%N%R%H_yI~A95F_sMmv!iCCHOSEONG TIKEUT-MIEUM$wZ$w1$wX$rL$rU$rW$RIEUL-SSANGTIKEU",
  "T$rN$rR$RIEUL-SSANGPIEUP$rJ$rT$RIEUL-CIEUC$rK$mU$MIEUM-TIKEUT$mX$PIEUP-SIOS-THIEUTH$PIEUP-KHIE",
  "UKH$p6$SSANGSIOS-PIEUP$IEUNG-RIEUL$IEUNG-HIEUH$SSANGCIEUC-HIEUH$SSANGTHIEUTH$PHIEUPH-HIEUH$HIE",
  "UH-SIOS$SSANGYEORINHIEUH~A980!JAVANESEtGPANYANGGA$CECAK$LAYAR$WIGNYAN_lMA$I KAWI%$jA$U$pnCEREK",
  "$nXLELET&RASWADI$E$al$O$kg%SASAK%nv$ht%nv$nX$cu%nv$j2$oJnv$j2mk$oJ$xN%mk$en%mk$nDnv$vN%nv$d8%m",
  "k$nD$pn%nv$bg%nv$me$zt$q8%AGUNG$ln$yR$smnv%mk%$ig_tGCECAK TELU_yNtGTARUNG%TOLONG%WULU&MELIK%SU",
  "KU&MENDUT%TALING%DIRGA MURE%PEPET_dztGKERET%PENGKAL%CAKRA_PANGKON_lBRERENGGAN;_rY_PADA ANDAP$M",
  "ADYA$LUHUR$WINDU$PANGKAT$LINGSA$LUNGSI$ah%ah$PISELEH<_xU~A9CF_PANGRANGKEP_eSz2$oZ$x8$wN$hh$gW$",
  "tZ$s2$fJ$of~A9DE_PADA TIRTA TUMETES$ISEN-ISEN!nzlMtchL%cP%j7%ol%bQ_tGtcSAW_m3lMtcro_lMvUlqoJ&g",
  "w&ht&hL&j2&j7&en&ep&ol_vUlqeSz2&oZ&x8&wN&hh&gW&tZ&s2&fJ&of_lMvUlqlX&d8&eH&bg&bQ~AA00!CHAMlMA$I",
  "$U$E$al$O$kg$kL$ht$hL$NGUE$nX$cP$CHHA$j2$j7$NHUE$n3$NHJA$vN$wo$d8$eH$NUE$nD$en$pn$PPA$pU$bg$bQ",
  "$MUE$me$bB$zt$q8$ln$yw$uD$sm$ig_yNtGaa%I%jA%EI%U%oP%O%al%bd%ye_dztGzt%q8%ln%yR~AA40_lMgNK%G%nW",
  "<_dztG_lMgNCH%T%N%P%Y%R%L%SS_dztGgNM&H~AA50_eSz2$oZ$x8$wN$hh$gW$tZ$s2$fJ$of~AA5C_qUuw$eh;$fk;$",
  "xD!nzlMkNht%cu%cP%j2%j7%oJ%xN%xO%en%ep%eH%nD%sm%ig%iW%gw_m3lMkNro_lMkNzq%zU%q8_l3kNOAY%QN%HM_v",
  "waogl%oZ%x8_lMaoq8_tGPAOkuxc$vUlqxe&xh_lMtApqcP&s5!vUVIETlMl7k9;%i0%l7kQ;%i0%l7KHHO;%i0%l7GO;%",
  "i0%l7n2;%i0%l7CO;%i0%l7c3;%i0%l7ul;%i0%l7oN;%i0%l7e9;%i0%l7w9;%i0%l7wI;%i0%l7on;%i0%l7BO;%i0%l",
  "7qk;%i0%l7p0;%i0%l7FO;%i0%l7m1;%i0%l7zO;%i0%l7r8;%i0%l7lZ;%i0%l7VO;%i0%l7i5;%i0%l7O;%i0$mlkm$y",
  "Naa%I%ye%U%E%O$mlKHIT$yNIA%UEA%UA%AUE%AY%aC%AM$xcmlEK&NUENG&wI&SONG~AADB$vwKON%NUENG%SAM%i5HOI",
  "%KOI KOI!MEETEI MAYEKlME%O%cP%oJ%xN%xO%en%ep%ol%s5%uD$yNtGjA&yv&AAI&bd&AAU$CHEIKHAN$AHANG KHUD",
  "AM$ANJI$vvrumv<$zm$yNtGyJ$yI~AB01!gkvvTTHU$TTHI$xP$TTHEE$TTHE$xQ~AB09$DDHU$DDHI$DDHAA$DDHEE$DD",
  "HE$DDHO~AB11$DZU$DZI$DZAA$DZEE$fA$DZO~AB20$CCHHA$CCHHU$CCHHI$CCHHAA$CCHHEE$CCHHE$CCHHO~AB28$bB",
  "$BBU$BBI$BBAA$BBEE$BBE$BBO~AB30!lyuglMbwaw%A REVERSED-SCHWA%b2E;%bw%Ezfg5%LENIS F%sIGzfdT%Lzfj",
  "TLAZY S(fkmRw3(mRr5%MzfdT<%N<%f2%b2O(zfu1=%o2%jToP%xUoPzfu1;)ja&O OPEN-O)zfu1%STIRRUP R_lMugcB",
  "RzfrYlH_uglMRzhHANDLE%fkR%RzfdT=%fk%sIR(zfr5%BASELINEgg%UzftvrYlH>&bu%UI;%xU%UzflBi8%cZ&zfl7rY",
  "r5)lBSERIF%Xzfl7rYr5(l4lBlH+aDl7rYr5+zfSERIF%YzftvrYlH!m3cgzfjTcg_lMugiT%LzfjTLAZY S(mRw3%Uzfl",
  "Bi8!lyuglMSAKHAzx%jWE%o2oP%UO%jTaw!h7lMugcBoV!lyuglMDZeUzfrxi8>%TS%xURzfmRw3!m3lMugxUW$lBvS;$r",
  "Y~AB70!CHEROKEEuglMA%E%I%O%U%V%ht%kg%GE%hR%GO%id%GV%ig%iH%iX%i5%jf%HV%ln%lz%lO%lZ%mb%LV%me%mC%",
  "mN%m1%nr%nD%HNA%NAH%nP%n4%on%oC%NV%QUA%QUE%QUI%QUO%QUU%QUV%sm%S%sJ%tB%ul%u3%SV%d8%vN%eq%v6%eI%",
  "wR%e9%fu%DV%DLA%TLA%TLE%TLI%TLO%TLU%TLV%xI%xJ%xM%TSO%TSU%TSV%yR%y0%y8%zi%WU%WV%zt!MEETEI MAYEK",
  "lMKOK%SAM%LAI%MIT%pn%nD%CHIL%TIL%KHOU%NGOU%THOU%WAI%zw%HUK%UN%I%PHAM%ATIYA%GOK%JHAM%RAI%bg%JIL",
  "%DIL%GHOU%DHOU%BHAM%KOK LONSUM;%LAI;%MIT;%pn;%nD;%TIL;%NGOU;%I$yNtGONAP&INAP&ANAP&YENAP&SOUNAP",
  "&UNAP&CHEINAP&NUNG$CHEIKHEI$mcIYEK;$APUN~ABF0$eSz2%oZ%x8%wN%hh%gW%tZ%s2%fJ%of~D7B0!iCkfO-YEO$O",
  "-O-I$YO-A$YO-AE$YO-EO$U-YEO$U-I-I$YU-AE$YU-O$EU-A$EU-EO$EU-E$EU-O$I-YA-O$I-YAE$I-YEO$I-YE$I-O-",
  "I$I-YO$I-YU$I-I$ARAEA-A$ARAEA-E~D7CB_kdNIEUN-RIEUL$NIEUN-CHIEUCH$uM$SSANGTIKEUT-PIEUP$wZ$w1$TI",
  "KEUT-SIOS-KIYEOK$wX$TIKEUT-CHIEUCH$TIKEUT-THIEUTH$rU$RIEUL-KIYEOK-HIEUH$SSANGRIEUL-KHIEUKH$RIE",
  "UL-MIEUM-HIEUH$RIEUL-PIEUP-TIKEUT$RIEUL-PIEUP-PHIEUPH$RIEUL-YESIEUNG$RIEUL-YEORINHIEUH-HIEUH$k",
  "s$MIEUM-NIEUN$MIEUM-SSANGNIEUN$SSANGMIEUM$MIEUM-PIEUP-SIOS$MIEUM-CIEUC$qd$PIEUP-RIEUL-PHIEUPH$",
  "PIEUP-MIEUM$uJ$qb$p5$p4$tT$SIOS-KAPYEOUNPIEUP$SSANGSIOS-KIYEOK$SSANGSIOS-TIKEUT$SIOS-PANSIOS$t",
  "Q$tP$tX$tR$PANSIOS-PIEUP$PANSIOS-KAPYEOUNPIEUP$YESIEUNG-MIEUM$YESIEUNG-HIEUH$CIEUC-PIEUP$CIEUC",
  "-SSANGPIEUP$uE$PHIEUPH-SIOS$PHIEUPH-THIEUTH~FB00!lyuglPFF%FI%FL%FFI%FFL%l4S T%ST~FB13!aYuglPmK",
  "NOW&fG&INI%VEW NOW%mKXEH~FB1D!HEBREWlMzPzfHIRIQ_qmJUDEO-SPANISH VARIKA_lPYIDDISHzPzPpG_lMaAbf$",
  "y9ar%ed%iH%ki%lu%gNmJ%rv%TAV$aAqjtG$trzftrfg;&SIN;&eaaDtr;)SIN$arzfpG&qY&mt$bMzfea<$hS<$ed$iHz",
  "fmt$yAzfea<$zZ~FB38<$wi<$zP<$gNki=$<$lu~FB3E<$mJ~FB40<$oI<$sw~FB43<$gNpI=$~FB46<$TSADI<$QOF<$r",
  "v<$tr<$TAV$yAzfHOLAM$bMzfRAFE<$ki<$pI_lParlu!aTlMaryUjXhe;&gN;$BEEHjX;%gN;%jK;%mG;$pMjX;%gN;%j",
  "K;%mG;$BEHEHjX;%gN;%jK;%mG;$TTEHEHjX;%gN;%jK;%mG;$TEHEHjX;%gN;%jK;%mG;$TTEHjX;%gN;%jK;%mG;$VEH",
  "jX;%gN;%jK;%mG;$PEHEHjX;%gN;%jK;%mG;$DYEHjX;%gN;%jK;%mG;$NYEHjX;%gN;%jK;%mG;$v5jX;%gN;%jK;%mG;",
  "$TCHEHEHjX;%gN;%jK;%mG;$DDAHALjX;%gN;$DAHALjX;%gN;$DULjX;%gN;$DDALjX;%gN;$JEHjX;%gN;$RREHjX;%g",
  "N;$kEjX;%gN;%jK;%mG;$hwjX;%gN;%jK;%mG;$GUEHjX;%gN;%jK;%mG;$NGOEHjX;%gN;%jK;%mG;$ophQjX;&gN;$RN",
  "OONjX;%gN;%jK;%mG;$iRzfzAadjX;)gN;%hZjX;&gN;&jK;&mG;%fajX;&gN;&jK;&mG;$zAbxjX;&gN;&zfipadjX;*g",
  "N_vwfgad%bH$x8fiad&bH$wNfiad&bH&qpfqad)bH$hhfiad&bH;$fkyFbu$x8fiyGad(bH$r5$ugvTad&bH$yUad~FBD3",
  "_lMnWjXhe;%gN;%jK;%mG;$UjX;%gN;$oPjX;%gN;$zSjX;%gN;$UzfipadjX<$yB;%gN;$kToPjX;&gN;%zSjX;&gN;$E",
  "jX;%gN;%jK;%mG;$UIGHUR KAZAKHkTarmmjK;*mG;_lPzAzfipadzfarjX;+gN;*aijX;+gN;*yYjX;+gN;*UjX;+gN;*",
  "oPjX;+gN;*zSjX;+gN;*EjX;+gN;+jK;$UIGHURkTzAzfipadzfarmmjX;:gN;:jK;_lMgzzAjX;&gN;&jK;&mG;_lPzAz",
  "fipadzfj6jX<*ii<*mI<*armm<*zA<$bFzfj6<&ii<&kM<&mI<&armm<&zA<$wazfj6<&ii<&kM<&mI<&armm<&zA<$wvz",
  "fj6<&mI<&armm<&zA<$j6zfii<&mI<$iizfj6<&mI<$kMzfj6<&ii<&mI<$sOzfj6<&ii<&kM<&mI<$snzfii<&mI<$d9z",
  "fj6<&ii<&kM<&mI<$vTzfii<&mI>$zV<$amzfj6<&mI<$hMzfj6<&mI<$gEzfj6<&ii<&kM<&mI<&armm<&zA<$qXzfii<",
  "&mI<&armm<&zA<$kizfar<&j6<&ii<&kM<&ls<&mI<&armm<&zA<$lszfj6<&ii<&kM<&mI<&armm<&zA<$mIzfj6<&ii<",
  "&kM<&mI<&armm<&zA<$opzfj6<&ii<&kM<&mI<&armm<&zA<$iRzfj6<&mI<&armm<&zA<$zAzfj6<&ii<&kM<&mI<&arm",
  "m<&zA<$wqzfvlar?$rq?$armm<$s8zfeg<&kx<&gA<&ef<&kw<&vlar;$zAzfipadzfrqgN<*zW<*mI<*op<*armm<*zA<",
  "$bFzfrq<&zW<&mI<&op<&armm<&zA<$wazfrq<&zW<&mI<&op<&armm<&zA<$wvzfrq<&zW<&mI<&op<&armm<&zA<$gEz",
  "farmm<&zA<$qXzfarmm<&zA<$kizfar<&ls<&mI<&armm<&zA<$lszfmI<&armm<&zA<$mIzfar<&mI<$opzfrq<&zW<&m",
  "I<&op<&armm<&zA<$armmzfvlar<$zAzfrq<&zW<&mI<&op<&armm<&zA;&ipadzfj6jK<*ii<*kM<*mI<*iR<$bFzfj6<",
  "&ii<&kM<&mI<&iR<$wazfj6<&ii<&kM<&mI<&iR<$wvzfmI<$j6zfii<&mI<$iizfj6<&mI<$kMzfj6<&mI<$sOzfj6<&i",
  "i<&kM<&mI<$snzfii<&kM<&mI<$d9zfj6<&ii<&kM<&mI<$vTzfii<$zVzfmI<$amzfj6<&mI<$hMzfj6<&mI<$gEzfj6<",
  "&ii<&kM<&mI<$qXzfii<&mI<$kizfj6<&ii<&kM<&ls<&mI<$lszfj6<&ii<&kM<&mI<&iR<$mIzfj6<&ii<&kM<&mI<$o",
  "pzfj6<&ii<&kM<&mI<&iR<$iRzfj6<&mI<&vlar<$zAzfj6<&ii<&kM<&mI<&iR;&ipadzfmImG<*iR<$bFzfmI<&iR<$w",
  "azfmI<&iR<$wvzfmI<&iR<$sOzfmI<&iR<$tizfmI<&iR<$kizfls<&mI>$ls>$op<&iR<$zAzfmI<&iR<$s8zfgA<&ef<",
  "&kw;$vTzfarmmjX<&zA<$amzfarmm<&zA<$hMzfarmm<&zA<$sOzfarmm<&zA<$tizfarmm<&zA<$iizfarmm<&zA<$j6z",
  "farmm<&zA<$kMzfarmm<&zA<$snzfarmm<&zA<$d9zfarmm<&zA<$tizfj6<&ii<&kM<&mI<&rq>$sO>$sn>$d9;$vTzfa",
  "rmmgN<&zA<$amzfarmm<&zA<$hMzfarmm<&zA<$sOzfarmm<&zA<$tizfarmm<&zA<$iizfarmm<&zA<$j6zfarmm<&zA<",
  "$kMzfarmm<&zA<$snzfarmm<&zA<$d9zfarmm<&zA<$tizfj6<&ii<&kM<&mI<&rq>$sO>$sn>$d9;$tizfj6jK<&ii<&k",
  "M<&mI<$sOzfiR>$ti<$vTzfmI;$sOzfj6mG<&ii<&kM<$tizfj6<&ii<&kM<$vTzfmI>$zV;$arzfgBgN;(jX!ORNATElB",
  "pB;_rY!aTlPRAHIMAHU ALLAAH$RADI ALLAAHU ANH&ANHAA&ANHUM&ANHUMAA&ANHUNNA$SALLALLAAHUaqWA-AALIH$",
  "aqa2;$ALAYHIM;$ALAYHIMAA$aqAS-SALAATU WAS-SALAAM$QUDDISA SIRRAH$SALLALLAHUaqWAAALIHEE WA-SALLA",
  "M$ALAYHAAa2$TABAARAKA WA-TAAALAA$RAHIMAHUM ALLAAH$wazfj6zfmIjKhe;&iizfj6gN;*jK<)mI>&kM<&mIzfj6",
  "<)ii<)kM;$j6zfmIzfiigN;*jK;$iizfmIzfzAgN<)armm;$sOzfiizfj6jK<&j6zfii;)armmgN<&mIzfii;*jK<)j6;)",
  "mIgN;*jK;$snzfiizfiigN;*jK;&mIzfmIgN>$tizfii;*jK;&j6zfzAgN<&mIzfkM;*jK;)mIgN;*jK;$d9zfiizfarmm",
  "gN<&kMzfmI;*jK;$vTzfmIzfiigN;*jK<)mI;)zAgN<$amzfj6zfmI>&mI;*jK;)armmgN<$hMzfmIzfmI<)zA<)armm<$",
  "gEzfkMzfmI;*jK;$qXzfmIzfiigN<)mI>$lszfii<)zA<)armm;&j6zfj6jK;*gN<&kMzfmI;*jK;&mIzfiigN;*jK<$mI",
  "zfiizfj6<)mI;)zAgN;&j6zfiijK<)mI<&kMzfj6<)mI~FD92<&j6zfkM<$iRzfmIzfj6<)mI>$opzfii;)armmgN<&j6z",
  "fmI;*jK;)armmgN<&mIzfzA<)armm<$zAzfmIzfmI;*jK;$bFzfkMzfzAgN>$wazfj6<)armm<&kMzfzA<)armm<&mIzfz",
  "A<)armm<$j6zfmIzfzA<&iizfarmm?&mI?$sOzfkM<$snzfiizfzA/$ti/$d9>$lszfj6>&mI>$zAzfii>&j6>&mI/$mI/",
  "$qX>$opzfii;$qXzfmIzfiijK<$lszfiizfmI;$amzfmIzfzAgN/$ki;$opzfj6zfiijK;$mIzfkMzfzAgN;$lszfj6zfm",
  "IjK;$kizfmIzfmIgN>$lszfj6<$opzfj6zfii<$j6zfiizfzA>$iizfj6/$mI>$gEzfmI>$bFzfii;$kizfmIzfmIjK>$a",
  "mzfj6>$snzfmI;$sOzfkMzfzAgN>$opzfj6~FDCF$SALAAMUHU ALAYNAA~FDF0$SALLA USED AS KORANICuVtGjXhe[",
  "$QALA<$ALLAH<$AKBAR<$MOHAMMAD<$SALAM<$RASOUL<$ap<$WASALLAM<$SALLA$ssapWASALLAM$JALLAJALALOUHOU",
  "!RIALtG!aTlPBISMILLAH AR-RAHMAN AR-RAHEEM$SUBHAANAHUyRTAAALAA$AZZAyRJALL!yzSELECTOR-1_SELECTOR",
  "-2_SELECTOR-3_SELECTOR-4_SELECTOR-5_SELECTOR-6_SELECTOR-7_SELECTOR-8_SELECTOR-9_SELECTOR-10_SE",
  "LECTOR-11_SELECTOR-12_SELECTOR-13_SELECTOR-14_SELECTOR-15_SELECTOR-16!qHhehdyFdr;&jv(hquV&dp&s",
  "V&glmv;&q6&lBy7lKcc&rYy7lKBRAKCET&jafV~FE20!dqlPlBil;$rY;_fkw3lB;%rY;_mglB;$rY_dymg_lPlBilbH<$",
  "rY<_w3lB<$rY<_mglB<$rY;_dymg_d7w8lBil;%rY!qHhehdyFx8fgLEADER&fWek;&fY&l7lS<&yX&lBpB;&rY&lBd1cc",
  "<&rY;&lBxqtk=&rY;&lBbYlK=&rY;&lBfkaF=&rY<&lB<&rY;&lBdK<&rY<&lBy7=&rY!SESAMEfg<!y7!qHhehdyFlBuA",
  "cc<&rY!elpk;!cO;!yX<!fk!ell7lS<!cO<!yX!ugdr;_jv_hquV~FE54_sV_dp_q6mv;_gl_fWek_lBpB;_rY_lBd1cc<",
  "_rY;_lBxqtk=_rY_oFtG_aB_a8_qjtG_jk_lLtG;_h6;_gb~FE68_rzuo_fftG;_pP_dsba~FE70!aTgBjXhe_v2zfgBad",
  "_egjXhe_vVFRAGMENT_kxjXhe~FE76<_gA;$mG;_efjX;$mG;_kwjX;$mG;_s8jX;$mG;_vejX;$mG;_lMipjX<$arzfmh",
  "ad;)gN;&ipadjX;)gN;$yYzfipadjX;)gN;$arzfipbHjX;)gN;$zAzfipadjX;)gN;)jK;)mG;$arjX;%gN;$bFjX;%gN",
  ";%jK;%mG;$wamujX;&gN;%jX;%gN;%jK;%mG;$wvjX;%gN;%jK;%mG;$j6jX;%gN;%jK;%mG;$iijX;%gN;%jK;%mG;$kM",
  "jX;%gN;%jK;%mG;$ecjX;%gN;$wqjX;%gN;$rqjX;%gN;$zWjX;%gN;$sOjX;%gN;%jK;%mG;$tijX;%gN;%jK;%mG;$sn",
  "jX;%gN;%jK;%mG;$d9jX;%gN;%jK;%mG;$vTjX;%gN;%jK;%mG;$zVjX;%gN;%jK;%mG;$amjX;%gN;%jK;%mG;$hMjX;%",
  "gN;%jK;%mG;$gEjX;%gN;%jK;%mG;$qXjX;%gN;%jK;%mG;$kijX;%gN;%jK;%mG;$lsjX;%gN;%jK;%mG;$mIjX;%gN;%",
  "jK;%mG;$opjX;%gN;%jK;%mG;$iRjX;%gN;%jK;%mG;$yYjX;%gN;$armmjX;&gN;$zAjX;%gN;%jK;%mG;_lPlszfarzf",
  "mhadjX;+gN;)ipadjX;+gN;*bHjX;+gN;(jX;(gN~FEFF!z2zboous~FF01!hrglmv;_q7_oFtG;_ff;_pP_aB_aQ_lBpB",
  ";_rY_a8_qjtG_dr_jk_hquV_uo_eSz2$oZ$x8$wN$hh$gW$tZ$s2$fJ$of_dp_sV_lLtG;_gb;_h6_q6mv_dsba_lycBlM",
  "A&B&C&D&E&F&G&H&I&J&K&L&M&N&O&P&Q&R&S&T&U&V&W&X&Y&Z_lBuAcc_rzuo_rYuAcc_dbae_l7lS_h4ae_lyuglMA&",
  "B&C&D&E&F&G&H&I&J&K&L&M&N&O&P&Q&R&S&T&U&V&W&X&Y&Z_lBd1cc_yFlS_rYd1cc_w3_lBy7pB<_rY!injvhquV_lB",
  "dKcc<_rY_jvdr_kymRfg$lMzi%ugA&I&U&E&O&zt&zS&zO&xR_kzqMupmv_kylMA%I%U%E%O%kg%kR%li%kD%k9%sm%tB%",
  "u3%sJ%ul%vN%wR%xR%v6%w9%nD%n4%oC%nP%on%ig%iX%jf%iH%i5%me%mN%nr%mC%m1%zt%zS%zO%q8%rE%sj%ri%r8%y",
  "R%N$yLupmv<$sR_iCgM$lMkX%uH%kY%n5%n6%n7%wW%uM%rH%rL%rN%rR%rT%rV%rQ%rI%mT%p3%uJ%p9%tO%uL%jx%c7%",
  "uE%c0%kP%wB%pY%iZ~FFC2%A%ai%zt%YAE%EO%E~FFCA%YEO%zy%O%yR%WAE%oP~FFD2%zO%U%WEO%y0%y8%zS~FFDA%EU",
  "%zL%I~FFE0!hrCENTtG;_qv;_ou_mg_cibu_YENtG;_WON~FFE8!inFORMSlQyF_lGaZ;_ys;_r4;_fq_bYuA_y7c8~FFF",
  "9!INTERLINEARaHANCHOR$sY$TERMINATOR!OBJECT REPLACEMENTcR<!"]

end Taxonomy.Text.Names
