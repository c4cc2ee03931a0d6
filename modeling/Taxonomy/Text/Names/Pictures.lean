/-!
# Names of characters: pictures

The symbols and pictures of the supplementary planes, in the form that `Text.Names` reads.
-/

namespace Taxonomy.Text.Names

/-- The symbols and pictures of the supplementary planes, in rows. -/
def pictures : List String := [
  "~1CF00!ZNAMENNYdqmvh1oiSlgoXlB?%<%TSATA<%h1oi=%<%SREDNE<%mpqy=%<%yQ<%mpqyS KHOKHLOM?%>%yQ%h1oi",
  "SlgoXrY?%<%TSATA<%h1oi=%<%SREDNE<%mpqy=%<%yQ<%mpqyS KHOKHLOM?%>%yQ%TSATA Slg<%mpqy%uXmpqy%qySl",
  "g&uX%yQSlg%mpqyuX%h1yQ%ZELO%oX%RAVNO%w2%BORZAYA%UDARKA%PODVERTKA%LOMKA%KUPNAYA%KACHKA%ZEVOK%SK",
  "OBA%RAZSEKA%lfoXlB~1CF30$xbremvMRACHNO(SVETLO(TRESVETLO$mvZADERZHKA;%ey%OTSECHKA%ql&zfyFu1%CHA",
  "SHKA&POLNAYA%OBLACHKO%SOROCHYA NOZHKA%TOCHKA%DVOETOCHIE$ATTACHINGyFOMET;$mvd5%lf$l9xbrejH_PRIZ",
  "NAKm3LEVEL-2%LEVEL-3%eYFLIP%lf%ROG~1CF50_NEUME KRYUK%TIKHY$PARAKLIT$DVA V CHELNU$KLYUCH$ZANOZH",
  "EK$STOPITSA%S OCHKOM$PEREVODKA%nT$STOPITSAzfSOROCHYA NOZHKA$cX$PALKA$zX$GOLUBCHIK BORZY%TIKHY%",
  "MRACHNY%SVETLY%TRESVETLY$VRAKHIYAqP%nq%vr%xx%k1qP&nq&vr&xx$fkzX$rAcX$DERBITSA$KHAMILO$CHASHKA$",
  "ql$t6nq%vr%xx%w2$eyKLYUCH$t6k1vr%k0%k1w2%fxqP&vr&nT&k1$SLOZHITIE%SzY%ZAKRYTOE%Slg$lf$ROG$gV$KO",
  "BYLA$ZMEYTSA$STATYA%SzY&lg;&zYI&lgIzY%ZAKRYTAYA&SzY%S ROGOM&DVUMYA ZAPYATYMI&zYI PODCHASHIEM$P",
  "OLKULIZMY$STATYAnT$uYqP%MRACHNOTIKHAYA%KRYZHEVAYA%POLUPOVODNAYA%qx%nT%KLYUCHEPOVODNAYA%k0%w2PU",
  "TNAYA%fx%DVOECHELNOKRYZHEVAYA%fy%fxk1;%fy%iazftLzX=%ic%ia%ic&zffkzX%ib&qx$MECHIK%POVODNY%KLYUC",
  "HEVOY%KLYUCHEPOVODNY%KLYUCHENEPOSTOYANNY$uYTRYASOGLASNAYA%TRYASOPOVODNAYA%TRYASOSTRELNAYA$OSOK",
  "A%vr%xx%levr;%k1&nT$uYle&qx&iazftLzX=&ic&ia&ic(zffkzX&ib(qx&TRYASKA$KUFISMA$OBLAKO$DUDA$NEMKA$",
  "PAUK~1D000!BYZANTINEnxvwqS%DASEIA%pR%OXEIAfP&eW%VAREIAfP&eW%KATHISTI%SYRMATIKI%py%YPOKRISIS&eW",
  "%KREMASTI%APESOfP;%EXO%TELEIA%kG%aP&eW%SYNEVMA%THITA%OLIGONaX;%h2%PSILON%CHAMILON%VATHY%ISONaX",
  ";%kF;%kG%SAXIMATA%PARICHON%STAVROS APODEXIA%OXEIAIaX;%VAREIAI;%APODERMA%APOTHEMA%kZ%REVMA%PIAS",
  "MAaX%TINAGMA%ANATRICHISMA%SEISMA%SYNAGMAaX&META STAVROU%pmaX%THEMA%LEMOI%DYO%TRIA%wh%KRATIMATA",
  "%APESO EXOnS%hpaX%IMIFTHORA%xGaX%KATAVAxG%PELASTON%qR%KONTEVMA%CHOREVMAaX%RAPISMA%pxaX;%py%ICH",
  "ADIN%NANA%PETASMA%KONTEVMA ALLO;%xG%STRAGGISMATA%GRONTHISMATA%ISONnS;%OLIGON;%OXEIA%PETASTI%KO",
  "UFISMA%PETASTOKOUFISMA%KRATIMOKOUFISMA%PELASTONnS%kGnSaI<%kF%YPSILI%aPnS;%aOSYNDESMOS%YPORROI%",
  "KRATIMOYPORROON%ELAFRON%CHAMILI%MIKRON ISON%VAREIAnS;%PIASMA;%qR%OMALON%ANTIKENOMA%LYGISMA%pyn",
  "S;%px%ETERONpx%KYLISMA%ANTIKENOKYLISMA%xGnS%EKSTREPTON%SYNAGMAnS%SYRMA%CHOREVMAnS%EPEGERMA%SEI",
  "SMAnS%XIRONkZ%TROMIKOPSIFISTON%PSIFISTOLYGISMA%TROMIKOLYGISMA%TROMIKOPARAKALESMA%PSIFISTOPARAK",
  "ALESMA%TROMIKOSYNAGMA%PSIFISTOSYNAGMA%GORGOSYNTHETON%ARGOSYNTHETON;%ETERON%pmnS%THEMATISMOS ES",
  "O&EXO%THEMA APLOUN%THESkjAPOTHES%KATAVASMA%ENDOFONON%YFENkB&aI%STAVROS%kZaI%eWaX;%KRATIMA&ALLO",
  "&nS;%APODERMA%aN%eW%TRIPLI%TETRAPLI%ld%LEIMMA ENOS CHRONOU&DYO CHRONON;&TRION;&TESSARON&IMISEO",
  "S CHRONOU%h2nSaI&pDARISTERA(DEXIA%DIGORGON&pDARISTERAkB)aI(DEXIA%TRIGORGON%ARGON%IMIDIARGON%DI",
  "ARGON%AGOGI POLI ARGI&ARGOTERI&ARGI&METRIA&MESI&GORGI&GORGOTERI&POLI GORGI%MARTYRIA PROTOSjn<&",
  "ALLI;&DEYTEROS<&ALLI;&TRITOS&TRIFONIAS&TETARTOSjn;(LEGETOS<&;&PLAGIOS%ISAKIA TELOUS ICHIMATOS<",
  "%aO%FANEROSIS TETRAFONIAS&nd&DIFONIAS%MARTYRIA VARYSjn;&PROTOVARYS;&PLAGIOS TETARTOS%GORTHMIKO",
  "N N APLOUN(DIPLOUN%ENARXISkjhpVOU%IMIFONON%IMIFTHORON%hpaXDEYTEROU ICHOU&eOpn(NANA&NAOSjn&eOeI",
  ";&t8DIATONON&eOkD(ZO(n4kB)aI&MALAKONc6DIFONIAS)nd%FHTORAt8c6VASIS%hpt8c6SYNAFI&NENANO%CHROA ZY",
  "GOS&KLITON&SPATHI%hpIzKwj&ENARMONIOS ANTIFONIA%zKTRITIMORION;%DIESIS&wj&aNDYO DODEKATA;&nfwh;&",
  "eTEX;&xCOKTO;%zKaNDYO;&nfwh;&eTEX;&xCOKTO%GENIKI DIESIS&zK%DIASTOLIaNMIKRI(MEGALI&eW&THESEOS;%",
  "SIMANSIS(DISIMOU(TRISIMOU(wm&ARSEOS(DISIMOU(TRISIMOU(wm%DIGRAMMA GG%DIFTOGGOS OU%STIGMA%ARKTIK",
  "Opn&VOU&ht&eI&kD&ZO&n4%kGnSMESO<%kF%kGnSkB<%kF;%kZ;%h2nS~1D100!nxvwtLBARLINE;$fk;$gN<$rz;$el;$",
  "tv$lBrttG<$rY$rtfi$ecSEGNO$d8CAPO$SEGNO$CODA$REPEATED FIGURE-1%FIGURE-2%FIGURE-3$FERMATA%bH$BR",
  "EATHmv$CAESURA$BRACE$cc$ONE-LINEuN;$TWO-LINE;$THREE-LINE;$FOUR-LINE;$FIVE-LINE;$SIX-LINE$SIX-S",
  "TRING FRETBOARD;$FOUR-STRING$Gdd&pcax(bA$Cdd;$F&pcax(bA$ftCLEF-1%CLEF-2~1D129$ntmDrw$fkte%gZ$g",
  "Zyn%fo$NATURALyn%fo$teyn%fo$q3xcte&gZ$COMMON TIME;$CUT$pcax%bA$QUINDICESIMAax%bA$MULTIrw;$WHOL",
  "E;$il;$q3;$fL;$t1;$wH;$t5;$oZjhx2$Xoy;$qj;$c8X$uAoyy7&bY$xyoyyny7(bY&lBy7(bY&rYy7(bY&foy7(bY&y",
  "nrYy7)bY$njoyy7&bY$TRIANGLE-ROUNDoyfoy7(bY$pBoy;$VOID$oybY$NULLoy$CLUSTERoyy7&bY$cg$WHOLEox;$i",
  "l;$q3;$fL;$t1;$wH;$t5;$oZjhx2$dquQ;%SPRECHGESANG%xu%xv%xw$FINGEREDxu%xv%xw$dqAUGMENTATIONfg%FL",
  "AG-1%FLAG-2%FLAG-3%FLAG-4%FLAG-5$bEBEAM;$f1$bETIE;$f1$bESLUR;$f1$bEPHRASE;$f1$dqae%STACCATO%TE",
  "NUTO%STACCATISSIMO%MARCATO%MARCATO-STACCATO%ACCENT-STACCATO%LOURE$ARPEGGIATOyn%fo$dqDOIT%RIP%F",
  "LIP%SMEAR%bJ%fkxl;%xD$RINFORZANDO$SUBITO$Z$PIANO$MEZZO$FORTE$CRESCENDO$DECRESCENDO$GRACEoxub;&",
  "on$TR$TURN;$jT$TURNub%yn$pbSTROKE-1%STROKE-2%STROKE-3%STROKE-4%STROKE-5%STROKE-6%STROKE-7%STRO",
  "KE-8%STROKE-9%STROKE-10%STROKE-11$HAUPTSTIMME$NEBENSTIMME$f1oQSTIMME$euub$dqfoBOW;%yn%HARMONIC",
  "%SNAP PIZZICATO$PEDALmv;%yn;$ilPEDAL$GLISSANDOyn%fo$zfFINGERNAILS$DAMP%ALL$MAXIMA$LONGA$BREVIS",
  "$sSy7%bY$MINIMA%bY$sXy7%bY$FUSAy7%bY$LONGApQrw;%jC;$BREVIS;$sS;$MINIMA;$sX$TEMPUS PERFECTUM CU",
  "MqLpQ)jC)pQeV%IMPERFECTUM CUMqLpQ)jC*eV*DIMINUTION-2*DIMINUTION-3$CROIX$GREGORIAN Cdd;%F$uAB$V",
  "IRGA$PODATUS$CLIVIS$sE$CLIMACUS$TORCULUS$PORRECTUS%FLEXUS;$sE$TORCULUS RESUPINUS$PES SUBPUNCTI",
  "S$KIEVAN Cdd%f1oQp2%gNox%RECITATIVEmv%WHOLEox;%il%q3oxuQfo)yn%fLoxuQfo)yn%gZtG$SORI$KORON~1D20",
  "0!h7VOCALovSYMBOL-1%SYMBOL-2%SYMBOL-3%SYMBOL-4%SYMBOL-5%SYMBOL-6%SYMBOL-7%SYMBOL-8%SYMBOL-9%SY",
  "MBOL-10%vx%vy%vz%vA%SYMBOL-15%SYMBOL-16%vB%vC%vD%SYMBOL-20%SYMBOL-21%SYMBOL-22%vE%vF%vG%vH%vI%",
  "vJ%vK_INSTRUMENTALovSYMBOL-1%SYMBOL-2%SYMBOL-4%SYMBOL-5%SYMBOL-7%SYMBOL-8%vx%vy%vz%vA%vB%vC%vD",
  "%vE%vF%SYMBOL-25%SYMBOL-26%SYMBOL-27%SYMBOL-29%SYMBOL-30%SYMBOL-32%SYMBOL-36%SYMBOL-37%SYMBOL-",
  "38%SYMBOL-39%SYMBOL-40%SYMBOL-42%SYMBOL-43%SYMBOL-45%SYMBOL-47%SYMBOL-48%SYMBOL-49%vG%vH%vI%vJ",
  "%vK!dqh7nxTRISEME%wl%pO!h7nxLEIMMA~1D2E0!MAYANoGz2$oZ$x8$wN$hh$gW$tZ$s2$fJ$of$wd$fU$xY$wF$hi$g",
  "G$t0$s3$fK$og~1D300!nehdfE;!DIGRAMhdHEAVENLY;$HUMAN$EARTHLYiO%HUMAN$fE!TETRAGRAMhdcM$hqc8$MIRE",
  "D$BARRIER$KEEPINGug$CONTRARIETY$ASCENT$o6$BRANCHINGpd$DEFECTIVENESSo7DISTORTION$DIVERGENCE$YOU",
  "THFULNESS$jE$PENETRATION$REACH$dB$i6bi$WAITING$ha$ADVANCE$RELEASE$RESISTANCE$EASE$JOY$CONTENTI",
  "ON$ENDEAVOUR$DUTIES$CHANGE$DECISIVENESS$b5RESOLUTION$PACKING$LEGION$CLOSENESS$KINSHIP$hE$STREN",
  "GTH$PURITY$FULLNESS$RESIDENCE$LAWo7MODEL$RESPONSE$GOINGw9MEET$ENCOUNTERS$STOVE$GREATNESS$ENLAR",
  "GEMENT$PATTERN$RITUAL$FLIGHT$VASTNESSo7WASTING$CONSTANCY$mD$ETERNITY$UNITY$DIMINISHMENT$djnm$G",
  "UARDEDNESS$hEjD$MASSING$ACCUMULATION$EMBELLISHMENT$DOUBT$WATCH$SINKING$INNER$eC$ej$DIMMING$EXH",
  "AUSTION$SEVERANCE$STOPPAGE$HARDNESS$dt$CLOSURE$FAILURE$AGGRAVATION$COMPLIANCE$oXwtVERGE$DIFFIC",
  "ULTIES$LABOURING$FOSTERING~1D360!COUNTING RODyleSoZ&x8&wN&hh&gW&tZ&s2&fJ&of$TENSeSoZ&x8&wN&hh&",
  "gW&tZ&s2&fJ&of!jvTALLYmvoZ%x8%wN%hh%gW!TALLYmvoZ$gW~1D400!mAb5cBA%B%C%D%E%F%G%H%I%J%K%L%M%N%O%",
  "P%Q%R%S%T%U%V%W%X%Y%Z$ugA%B%C%D%E%F%G%H%I%J%K%L%M%N%O%P%Q%R%S%T%U%V%W%X%Y%Z_jYcBA%B%C%D%E%F%G%",
  "H%I%J%K%L%M%N%O%P%Q%R%S%T%U%V%W%X%Y%Z$ugA%B%C%D%E%F%G~1D456%I%J%K%L%M%N%O%P%Q%R%S%T%U%V%W%X%Y%",
  "Z_b5jYcBA&B&C&D&E&F&G&H&I&J&K&L&M&N&O&P&Q&R&S&T&U&V&W&X&Y&Z%ugA&B&C&D&E&F&G&H&I&J&K&L&M&N&O&P&",
  "Q&R&S&T&U&V&W&X&Y&Z_sIcBA~1D49E%C%D~1D4A2%G~1D4A5%J%K~1D4A9%N%O%P%Q~1D4AE%S%T%U%V%W%X%Y%Z$ugA%",
  "B%C%D~1D4BB%F~1D4BD%H%I%J%K%L%M%N~1D4C5%P%Q%R%S%T%U%V%W%X%Y%Z_b5sIcBA&B&C&D&E&F&G&H&I&J&K&L&M&",
  "N&O&P&Q&R&S&T&U&V&W&X&Y&Z%ugA&B&C&D&E&F&G&H&I&J&K&L&M&N&O&P&Q&R&S&T&U&V&W&X&Y&Z_FRAKTURcBA%B~1",
  "D507%D%E%F%G~1D50D%J%K%L%M%N%O%P%Q~1D516%S%T%U%V%W%X%Y~1D51E$ugA%B%C%D%E%F%G%H%I%J%K%L%M%N%O%P",
  "%Q%R%S%T%U%V%W%X%Y%Z_fmcBA%B~1D53B%D%E%F%G~1D540%I%J%K%L%M~1D546%O~1D54A%S%T%U%V%W%X%Y~1D552$u",
  "gA%B%C%D%E%F%G%H%I%J%K%L%M%N%O%P%Q%R%S%T%U%V%W%X%Y%Z_b5FRAKTURcBA&B&C&D&E&F&G&H&I&J&K&L&M&N&O&",
  "P&Q&R&S&T&U&V&W&X&Y&Z%ugA&B&C&D&E&F&G&H&I&J&K&L&M&N&O&P&Q&R&S&T&U&V&W&X&Y&Z_szcBA%B%C%D%E%F%G%",
  "H%I%J%K%L%M%N%O%P%Q%R%S%T%U%V%W%X%Y%Z$ugA%B%C%D%E%F%G%H%I%J%K%L%M%N%O%P%Q%R%S%T%U%V%W%X%Y%Z$b5",
  "cBA&B&C&D&E&F&G&H&I&J&K&L&M&N&O&P&Q&R&S&T&U&V&W&X&Y&Z%ugA&B&C&D&E&F&G&H&I&J&K&L&M&N&O&P&Q&R&S&",
  "T&U&V&W&X&Y&Z$jYcBA&B&C&D&E&F&G&H&I&J&K&L&M&N&O&P&Q&R&S&T&U&V&W&X&Y&Z%ugA&B&C&D&E&F&G&H&I&J&K&",
  "L&M&N&O&P&Q&R&S&T&U&V&W&X&Y&Z$b5jYcBA(B(C(D(E(F(G(H(I(J(K(L(M(N(O(P(Q(R(S(T(U(V(W(X(Y(Z&ugA(B(",
  "C(D(E(F(G(H(I(J(K(L(M(N(O(P(Q(R(S(T(U(V(W(X(Y(Z_nhcBA%B%C%D%E%F%G%H%I%J%K%L%M%N%O%P%Q%R%S%T%U%",
  "V%W%X%Y%Z$ugA%B%C%D%E%F%G%H%I%J%K%L%M%N%O%P%Q%R%S%T%U%V%W%X%Y%Z_jYugfhI&J~1D6A8_b5cBaw%bN%hz%e",
  "x%f9%z3%gi%wz%jU%ko%lt%nr%oC%zr%oW%p1%rD%wzvw%tF%v3%yr%pX%cZ%qQ%oV$nG$ugaw%bN%hz%ex%f9%z3%gi%w",
  "z%jU%ko%lt%nr%oC%zr%oW%p1%rD%gNtF;%%v3%yr%pX%cZ%qQ%oV$pEeP$f9vw;$wz;$ko;$pX;$rD;$p1_jYcBaw%bN%",
  "hz%ex%f9%z3%gi%wz%jU%ko%lt%nr%oC%zr%oW%p1%rD%wzvw%tF%v3%yr%pX%cZ%qQ%oV$nG$ugaw%bN%hz%ex%f9%z3%",
  "gi%wz%jU%ko%lt%nr%oC%zr%oW%p1%rD%gNtF;%%v3%yr%pX%cZ%qQ%oV$pEeP$f9vw;$wz;$ko;$pX;$rD;$p1_b5jYcB",
  "aw&bN&hz&ex&f9&z3&gi&wz&jU&ko&lt&nr&oC&zr&oW&p1&rD&wzvw&tF&v3&yr&pX&cZ&qQ&oV%nG%ugaw&bN&hz&ex&",
  "f9&z3&gi&wz&jU&ko&lt&nr&oC&zr&oW&p1&rD&gNtF;&&v3&yr&pX&cZ&qQ&oV%pEeP%f9vw;%wz;%ko;%pX;%rD;%p1_",
  "szb5cBaw&bN&hz&ex&f9&z3&gi&wz&jU&ko&lt&nr&oC&zr&oW&p1&rD&wzvw&tF&v3&yr&pX&cZ&qQ&oV%nG%ugaw&bN&",
  "hz&ex&f9&z3&gi&wz&jU&ko&lt&nr&oC&zr&oW&p1&rD&gNtF;&&v3&yr&pX&cZ&qQ&oV%pEeP%f9vw;%wz;%ko;%pX;%r",
  "D;%p1%jYcBaw(bN(hz(ex(f9(z3(gi(wz(jU(ko(lt(nr(oC(zr(oW(p1(rD(wzvw(tF(v3(yr(pX(cZ(qQ(oV&nG&ugaw",
  "(bN(hz(ex(f9(z3(gi(wz(jU(ko(lt(nr(oC(zr(oW(p1(rD(gNtF;((v3(yr(pX(cZ(qQ(oV&pEeP&f9vw;&wz;&ko;&p",
  "X;&rD;&p1_b5cBeR;$ug~1D7CE$eSz2%oZ%x8%wN%hh%gW%tZ%s2%fJ%of_fmeSz2%oZ%x8%wN%hh%gW%tZ%s2%fJ%of_s",
  "zeSz2%oZ%x8%wN%hh%gW%tZ%s2%fJ%of$b5eSz2&oZ&x8&wN&hh&gW&tZ&s2&fJ&of_nheSz2%oZ%x8%wN%hh%gW%tZ%s2",
  "%fJ%of!SIGNWRITINGiwjG;_is;_iu;_iA;_iy;_ir_iwjGbK<_is<_iwwPyh$jGrdk7%dZ%i2&l7_isjGHINGE_iwjGmR",
  "<_is_iwjGmRbK&rdk8&i2<%yn%i2mRyn%mRdx(jGbK;(mR(dZ(i2&dS=_is_iwmRbKpfjG$jGbKpfmR%mRwP=_is_iwjGm",
  "RuWwPbK&bKwPuW&wPbK&i2uzwPtD<%ynmRi2*dx%i2mRynwPtD%mRynuzwPhg&wPdZ(c9(i9(i2$wPbPjGmRuW$jGmRdxw",
  "PtD*dx*bK$mRwPi9jGyn;$jGwPi9mR%mRdxi2wPtD<&dS&dxwPhg<(dZ$mRwPdZjGyn;$jGwPdZmR;$mRwPc9jG)i2$jGw",
  "PaGpdmRyn<(jD<&c9%mRwPdxi2(aGpd)$mRwPaGpdjGyn*dS(jGyn$jGwPi9mRi2_ixhhgQ&bK&i2&dx(SPLIT_ithhgQd",
  "x_iwhhgQdxbK_iyhhgQdx_ixgWgQuz=$iQ$gWgQuzhhbK?$iQ;$gWgQuz>$iQ$gWgQuzwPhg_iugWgQuz(o2>_iy_iAgWg",
  "Quz_ixgWgQuzi2)wPtD)onwP$$bPpsFACINGS$iQ$wPtD<$iQ$wPbK%hg$SPLITjGwPtD%cM&wPtD)bK%lU_it$wPtD$on",
  "wP$wPhg_izCURLICUE$_iuo2$$o2wPtD<$$o2onwP<$$o2wPhg<$_ivo2$_is_iA$wPtD$onwP$wPhg_iyo2%wPhg$$ug$",
  "o2wPtD<$$o2onwP<$$wPtDTOUCHINGjG%bPmRr5_ir_iwjGmRr5=_is=_iy=_ir_iylU_iwjGmRr5bK(dx>_iy_iwlUfo&",
  "RIPPLEuW(d5&OTHERSc9%yn<$wPyh<_is<_iA<_ir_iwlUrdk7%bK%TOUCHESwP;%<_iy;_iwlUjG=_iy_irlUjGwPjGwP",
  "pd*_iwlUjG<_is<_iy<_ir_iwjGmRlU=_is=_iy$r5_irjGmRlU;_iwjGmRdQ>_is_iwr5fo_iyr5fojGwPi8mR_irr5fo",
  "mRwPjGdQ_iwr5yn%rdk7%lU<_is<_iA<_ir_iwr5mR&dx&rdk8%jG%wP<_iz_iwjGr5lU=_is_ivjGr5lUoX_izjGr5lUp",
  "d(jD(yh_iujGr5lU=_iy_irjGr5lUpd(_iwmRfo_iymR_iwmRyn<_is_iwmRrdk7%ynwPtD_izmRwP_iwmRwPlU;%;%r5=",
  "_is_ivmRr5lUoX_iumRr5lU=_iy_irmRr5lUpd(jD(_ismRr5lUbK_itmRr5lUdx)tD_izmRr5lUdxpd)jD)_iyjGi2_iw",
  "jGwPtD=_iy_iwjGwPtDwPeK)dx)bK;(jG;(BOTH(jGHINGE&hgjGuW)bK&i8&CURLICUE&d4wPjM?_it_iwjGwPd4wPyh&",
  "c8_iujGwP&o2=_iy&lw&&ug_irjGwPpd&jD&;_iw%iQ%tDeK&dx&bK%hg%bPjGmR&mRr5&r5lU%yhx8gQ<%pf;%yhwN;&h",
  "h%pfhhrdk8$$iQ_TOUCHtL$nt$bP_GRASPtL$nt$bP_STRIKEtL$nt$bP_cjtL$nt$bP_RUBtL$nt$bP_SURFACEvL$bP_",
  "SQUEEZElwtL;$ug$lwnt;$ug$sZ_FLICKlwtL;$ug$lwnt;$ug$sZ_SQUEEZE FLICKaz_MOVEMENT-HINGEynfolw&ug%",
  "sZ;$fo$ynfoazlw(ug$tDw9tDSCISSORS_npgPdB<_no_nptLuWug&mH&lw&lx%zog2$fkuW%zog2%az&zog2$dQ$xDuWn",
  "n%zog2%az&zog2$bJug%mH%lw$dKug%mH%lw%ROTATION$cVug%mH%lw$cbug%mH%lw$z9ug%mH%lw$PEAKSug%mH%lw_T",
  "RAVEL-WALLPLANEsdtL%fk%az$sctL%fk%az$tb$ARMuwtL&fk&xD_MOVEMENT-DIAGONAL AWAYug%mH%lw%lx$TOWARD",
  "Sug%mH%lw%lx$bPAWAYug&mH&lw&lx%TOWARDSug&mH&lw&lx_notLuWug&mH&lw&lx%zog2$fkuW%zog2%az&zog2$dQ$",
  "xDuWnn%zog2%aznn&zog2$bJ$dKug%mH%lw$cV$cbug%mH%lw$z9ug%mH%lw$PEAKSug%mH%lw_TRAVEL-FLOORPLANEsc",
  "tL%fk%az$sdtL%fk%az$tb_npd4q3ug&mH&lw&lx%imug&mH&lw&lx%THREE-QUARTERc8ug(mH$jgug%mH%lw$l5ug%mH",
  "%lw%ugfk$yWd4fkug(mH(lw&xDug(mH(lw$d4wwuW$d5dQug&mH_sdtL$fk$ay_nptb$d4i4FRONTyT=$jg=$l5=$yW=_s",
  "dtL=$fk=$az_npd4i4CHEST<$jg<$l5<$yW<_sdtL<$fk<$az_npyWeKPATHug(mH(lw_nod4i4cKug(lw$jgi4cKugfk;",
  "(lw(ugxD;(lw$l5i4cKugtL;(lw(ugfk;(lw$yWi4cKug(lw_sctLi4cK<$fk<$az_nod4i4g3ug(lw$jgi4g3ugfk;(lw",
  "(xDugxD;)lw$l5i4g3ugtL;(lw(ugfk;(lw$yWi4g3ug(lw_sctLi4g3<$fk<$az_nod4ug%mH%lw%lx%COMBINED$jgug",
  ";$l5$yWuj%ug%lw_sctL$fk$az_notbpz_npARMc8ugtL;&mH&ugfk;&mH_noARMc8i4yTugtL;)mH;)lw)ugfk;)mH;)l",
  "w_npzoc8FRONTtL(fk_nozoc8i4yTtL)fk_npgPdatL&fk_nogPdai4yTtL)fk_DYNAMICa0ug%lw$FAST$SLOW$TENSE$",
  "RELAXED$SIMULTANEOUS%az$EVERY OTHER TIME$GRADUAL_iI$RIM$npuW%TILT$nouW$npd4;$no$nnc8_gxeYqsoth",
  "gw4(yno7fo+w4_EYEBROWSuWyn%nU%fo;_DREAMY EYEBROWSnU%fonU;%yn%nUyn_FOREHEADnU$dB$zn_guo2$SQUEEZ",
  "ED$dj_grBLINKtL%nt_guilo2;$y9$ildj$WIDENINGnn_grWINK_EYELASHESyn$fo$g7_gtuW%fk%az_gsuW%fk%az_g",
  "td5;_gs_gtCIRCLING_CHEEKS PUFFED$nU$SUCKED_TENSE CHEEKSi0%mR%l7_EARS_otnU$dB$WRINKLES$WIGGLES_",
  "AIR BLOWINGpd$SUCKINGjD$BLOWugROTATIONS<$SUCK_BREATH INHALE$EXHALE_nmdjnU%hg%dB$uh%zn%o2$FROWN",
  "%zn%o2$o2c8%hg%zn%OVAL&zn&YAWN%rk&zn&YAWN$kV%hg%zn$TENSE%hg%SUCKED_lTPRESSEDxa_LIPl9pfyq$yqpfl",
  "9_nmdL$WRINKLEStL%fk_xlSTICKINGpdFAR$LICKINGlT;$w7bP%TOUCHINGjMnm$jMnmRELAXED$MOVES AGAINST CH",
  "EEK$cMSTICKINGpd%jMnm_TEETH$nn$oXxl&nn%lT&nn$BITElT_npJAW;_no_NECK_ij_EXCITEMENT_txHIP SPINE%P",
  "OSITIONS_WALLPLANEtxHIP MOVE=_FLOORPLANE_txw4hmWAIST_TORSO-WALLPLANEuWSTRETCH$d5bJ_TORSO-FLOOR",
  "PLANE TWISTING_yqBODYw4hmHIP JOINTS_LIMB COMBINATION$LENGTH-1$LENGTH-2$LENGTH-3$LENGTH-4$LENGT",
  "H-5$LENGTH-6$LENGTH-7_gP_LOCATION-WALLPLANEus;_LOCATION-FLOORPLANE_l0HEIGHT$zb$DEPTH$iINECK$TO",
  "RSO$LIMBS DIGITS_dr_hquV_sV_dp_pB~1DA9B_gLm4$m5$m6$m7$m8~1DAA1_ROTATIONm4$m5$m6$m7$m8$MODIFIER",
  "-7$MODIFIER-8$MODIFIER-9$MODIFIER-10$MODIFIER-11$MODIFIER-12$MODIFIER-13$MODIFIER-14$MODIFIER-",
  "15$MODIFIER-16~1DF00!lyuglMFENGeUzfTRILL%rAsIG;_lMugcBxU_uglMrAK_lMugcBLzfbI_uglMLEZHzfrxi8%xU",
  "YzfbI%rAf2%xURzfl4lHaDrxi8=%Tzfi8<_lMrxdezf_uglMggzffkbu*aDd0;%xUTzf<_lMjThYuV<$u0C$ugcBxUK_ug",
  "lMLzfgU%eGeUzfppi8<%LzfbIaD<%f2zf=%xUR<%RzfgUaD<%wgeUzf=%gv;%eGeUzfrx<%Izfu1aD<%Ozf=%wgeU=%C%S",
  "zfd0~1E000!dqhWlMAZU%BUKY%VEDE%hV%fb%zJ%z8~1E008%z1%IZHE;%jK%I%e8%KAKO%lV%nA%nL%ONU%qq%r7%uf%x",
  "X%UKU%hl%HERU~1E01B%SHTA%xM%c5%s5%zF%zE%YATI~1E023%zS%ugzT~1E026%zO%jVugzT;%bS<%jV%gV~1E100!NY",
  "IAKENG PUACHUE HMONGlMme&xI&NTA&vN&ig&nD&zq&NKA&cu&ln&sm&zU&NCA&NTSA&kg&d8&oJ&NRA&yw&NTXA&TXA&",
  "gw&q8&qW&zt&NQA&pn&XYA&NPA&DLA&NPLA&ii&MLA&PLA&ht&sh&A&aa&I&U&O&o1&E&fH&W~1E130%TONE-B%TONE-M%",
  "TONE-J%TONE-V%TONE-S%TONE-G%TONE-D%tGhdpT(THING(l0(ANIMAL(INVERTEBRATE&XW XW%vvlJ~1E140%eSz2&o",
  "Z&x8&wN&hh&gW&tZ&s2&fJ&of~1E14E%l3NYAJ%c9cu~1E290!TOTOlMpn$bg$vN$d8$kg$ht$me$nD$nX$sm$cP$zt$yR",
  "$j2$ig$q8$ln$I;$cf$IU;$cf$U$E;$cf$EO;$cf$O$ai;$cf$A_tGr6xc~1E2C0!WANCHOlMaa$A$bg$cu$d8$ht$zt$p",
  "U$ln$nD$pn$vN$wo$gw$sm$s5$j2$zU$yR$yw$kg$O$bd$q8$me$kL$ig$E$I$nX$U$LLHA$xI$TRA$ONG$AANG$aE$ING",
  "$oX$fY$AAN$oJ$UEN$YIH_xcTUP$TUPNI$KOI$KOINI_eSz2$oZ$x8$wN$hh$gW$tZ$s2$fJ$of~1E2FF_NGUNtG~1E7E0",
  "!gkvvHHYA$HHYU$HHYI$HHYAA$HHYEE$HHYE$HHYO~1E7E8$GURAGE HHWA$HHWI$HHWEE$HHWE~1E7ED$GURAGE MWI%M",
  "WEE~1E7F0%QWI%QWEE%QWE%BWI%BWEE%KWI%KWEE%KWE%GWI%GWEE%GWE%FWI%FWEE%PWI%PWEE~1E800!MENDE KIKAKU",
  "IvvM001kR%M002kg%M003li%M065 KEE%M095kD%M076 KOO%M048k9%M179 KUA%M004y8%M005yR%M006 WU%M126 WE",
  "E%M118y0%M114 WOO%M045zi%M194 WUI%M143 WEI%M061 WVI%M049 WVA%M139 WVE%M007 MIN%M008mq%M009 MUN",
  "%M059mK%M094m9%M154 MUAN%M189 MUEN%M010bR%M011bg%M012ck%M150bD%M097bC%M103 BOO%M138 BO%M013 I%",
  "M014 A%M015 U%M163fH%M100 E%M165o1%M147 O%M137 EI%M131jD;%M135%M195aC%M178fY%M019tB%M020sm%M02",
  "1u3%M162sN%M116sJ%M136 SOO%M079ul%M196 SIA%M025lO%M026ln%M027mb%M084 LEE%M073lz%M054 LOO%M153l",
  "Z%M110l4lz%M016eI%M017d8%M018fu%M089et%M180 DOO%M181e9%M022wR%M023vN%M024xR%M091v9%M055v6%M104",
  " TOO%M069w9%M028 JI%M029j2%M030 JU%M157j5%M113 JE%M160 JOO%M063 JO;%M175l4%M031zL%M032zt%M033z",
  "S%M109zz%M080zy%M141 YOO%M121zO%M034 FI%M035gw%M036 FU%M078gD%M075 FE%M133 FOO%M088 FO%M197 FU",
  "A%M101 FAN%M037 NIN%M038 NAN%M039oI%M117 NEN%M169 NON%M176iX%M041ig%M186jf%M040 HEE%M096iH%M04",
  "2 HOO%M140i5%M083 HEEI%M128 HOOU%M053 HIN%M130 HAN%M087 HUN%M052 HEN%M193 HON%M046 HUAN%M090 N",
  "GGI%M043nZ%M082 NGGU%M115 NGGEE%M146 NGGE%M156n1%M120 NGGO%M159 NGGAA%M127 NGGUA%M086l4NGGE%M1",
  "06l4n1%M183l4NGGO%M155hR%M111ht%M168id%M190 GEE%M166 GUEI%M167 GUAN%M184 NGEN%M057 NGON%M177 N",
  "GUAN%M068p1%M099pn%M050qT%M081pL%M051pI%M102 POO%M066qk%M145 MBI%M062 MBA%M122 MBU%M047 MBEE;%",
  "M188%M072 MBE%M172 MBOO%M174 MBO%M187 MBUU%M161l4MBE%M105l4MBOO%M142l4MBO%M132 KPI%M092 KPA%M0",
  "74 KPU%M044 KPEE%M108 KPE%M112 KPOO%M158 KPO%M124 GBI%M056 GBA%M148 GBU%M093 GBEE%M107 GBE%M07",
  "1 GBOO%M070 GBO%M171q8%M123 NDI%M129nN%M125 NDU%M191 NDEE%M119 NDE%M067 NDOO%M064 NDO%M152 NJA",
  "%M192 NJU%M149ok%M134 NJOO%M182 VI%M185yw%M151 VU%M173yD%M085yB%M144 VOO%M077 VO%M164 NYIN%M05",
  "8 NYAN%M170 NYUN%M098 NYEN%M060 NYON~1E8C7$eSoZ%x8%wN%hh%gW%tZ%s2%fJ%of$dqoFTEENS&TENS&ji&wL;&",
  "wd;&jh&mZ~1E900!ADLAMcBlMALIF%DAALI%LAAM%MIIM%bg%tN%pI%BHE%q8%E%gw%I%O%eH%YHE%yY%oI%ki%zt%U%JI",
  "IM%cZ%ig%QAAF%ht%oJ%xR%n3%yw%kL%GBE%ZAL%KPO%s5_uglMALIF%DAALI%LAAM%MIIM%bg%tN%pI%BHE%q8%E%gw%I",
  "%O%eH%YHE%yY%oI%ki%zt%U%JIIM%cZ%ig%QAAF%ht%oJ%xR%n3%yw%kL%GBE%ZAL%KPO%s5_ALIFlJ;_yN_hGmv_ip_dz",
  "m3<_GEMINATE_oE_nKmv~1E950_eSz2$oZ$x8$wN$hh$gW$tZ$s2$fJ$of~1E95E_jKglmv;$q6~1EC71!INDIC SIYAQo",
  "FoZ%x8%wN%hh%gW%tZ%s2%fJ%of%wd%x1%wG%hf%gI%t4%s4%fO%oh%oZjh;%x8;%wN;%hh;%gW;%tZ;%s2;%fJ;%of%oZ",
  "wK;%x8;%wN;%hh;%gW;%tZ;%s2;%fJ;%of;%wd;%x1;%wG;%hf;%gI;%t4;%s4;%fO;%oh%LAKH%LAKHAN$LAKHmv$oFKA",
  "ROR%KARORAN%PREFIXEDoZ&x8&wN&hh&gW&tZ&s2&fJ&of$qi$hkoZq3&il%wNq4$slmv$oFayoZ&x8&wdwK$ayLAKHmv~",
  "1ED01!OTTOMAN SIYAQoFoZ%x8%wN%hh%gW%tZ%s2%fJ%of%wd%x1%wG%hf%gI%t4%s4%fO%oh%oZjh;%x8;%wN;%hh;%g",
  "W;%tZ;%s2;%fJ;%of%oZwK;%x8;%wN;%hh;%gW;%tZ;%s2;%fJ;%of;%wd;%x1;%wG;%hf;%gI;%t4;%s4;%fO;%oh$MAR",
  "RATAN$ayoFx8&wN&hh&gW&tZ&s2&fJ&of&wd&hhjh;&tZ&x8wK;&wd$hkoZil&t3~1EE00!aTmAar$bF$j6$ec~1EE05$y",
  "Y$zW$ii$vT$zA$ki$ls$mI$op$sO$am$gE$sn$qX$rq$ti$wa$wv$kM$wq$d9$zV$hM$fhbF%op%gE%qX~1EE21$jKbF%j",
  "6~1EE24%iR~1EE27%ii~1EE29%zA%ki%ls%mI%op%sO%am%gE%sn%qX~1EE34%ti%wa%wv%kM~1EE39%d9~1EE3B%hM~1E",
  "E42$TAILEDj6~1EE47%ii~1EE49%zA~1EE4B%ls~1EE4D%op%sO%am~1EE51%sn%qX~1EE54%ti~1EE57%kM~1EE59%d9~",
  "1EE5B%hM~1EE5D%fhop~1EE5F&qX~1EE61$u0bF%j6~1EE64%iR~1EE67%ii%vT%zA%ki~1EE6C%mI%op%sO%am%gE%sn%",
  "qX~1EE74%ti%wa%wv%kM~1EE79%d9%zV%hM%fhbF~1EE7E&gE~1EE80$LOOPEDar%bF%j6%ec%iR%yY%zW%ii%vT%zA~1E",
  "E8B%ls%mI%op%sO%am%gE%sn%qX%rq%ti%wa%wv%kM%wq%d9%zV%hM~1EEA1$fmbF%j6%ec~1EEA5%yY%zW%ii%vT%zA~1",
  "EEAB%ls%mI%op%sO%am%gE%sn%qX%rq%ti%wa%wv%kM%wq%d9%zV%hM~1EEF0$o4mIzfiizfv2%iizfec~1F000!MAHJON",
  "G TILEfFzd;$ur;$y1;$os$rnfs;$h8;$y7$oZoQCHARACTERS<$x8<$wN<$hh<$gW<$tZ<$s2<$fJ<$of$oZoQBAMBOOS",
  "<$x8<$wN<$hh<$gW<$tZ<$s2<$fJ<$of$oZoQda<$x8<$wN<$hh<$gW<$tZ<$s2<$fJ<$of$PLUM$ORCHID$bt$CHRYSAN",
  "THEMUM$SPRING$SUMMER$AUTUMN$WINTER$kc$bi~1F030;!DOMINO TILEja$HORIZONTAL-00-00$HORIZONTAL-00-0",
  "1$HORIZONTAL-00-02$HORIZONTAL-00-03$HORIZONTAL-00-04$HORIZONTAL-00-05$HORIZONTAL-00-06$HORIZON",
  "TAL-01-00$HORIZONTAL-01-01$HORIZONTAL-01-02$HORIZONTAL-01-03$HORIZONTAL-01-04$HORIZONTAL-01-05",
  "$HORIZONTAL-01-06$HORIZONTAL-02-00$HORIZONTAL-02-01$HORIZONTAL-02-02$HORIZONTAL-02-03$HORIZONT",
  "AL-02-04$HORIZONTAL-02-05$HORIZONTAL-02-06$HORIZONTAL-03-00$HORIZONTAL-03-01$HORIZONTAL-03-02$",
  "HORIZONTAL-03-03$HORIZONTAL-03-04$HORIZONTAL-03-05$HORIZONTAL-03-06$HORIZONTAL-04-00$HORIZONTA",
  "L-04-01$HORIZONTAL-04-02$HORIZONTAL-04-03$HORIZONTAL-04-04$HORIZONTAL-04-05$HORIZONTAL-04-06$H",
  "ORIZONTAL-05-00$HORIZONTAL-05-01$HORIZONTAL-05-02$HORIZONTAL-05-03$HORIZONTAL-05-04$HORIZONTAL",
  "-05-05$HORIZONTAL-05-06$HORIZONTAL-06-00$HORIZONTAL-06-01$HORIZONTAL-06-02$HORIZONTAL-06-03$HO",
  "RIZONTAL-06-04$HORIZONTAL-06-05$HORIZONTAL-06-06$yFbi$VERTICAL-00-00$VERTICAL-00-01$VERTICAL-0",
  "0-02$VERTICAL-00-03$VERTICAL-00-04$VERTICAL-00-05$VERTICAL-00-06$VERTICAL-01-00$VERTICAL-01-01",
  "$VERTICAL-01-02$VERTICAL-01-03$VERTICAL-01-04$VERTICAL-01-05$VERTICAL-01-06$VERTICAL-02-00$VER",
  "TICAL-02-01$VERTICAL-02-02$VERTICAL-02-03$VERTICAL-02-04$VERTICAL-02-05$VERTICAL-02-06$VERTICA",
  "L-03-00$VERTICAL-03-01$VERTICAL-03-02$VERTICAL-03-03$VERTICAL-03-04$VERTICAL-03-05$VERTICAL-03",
  "-06$VERTICAL-04-00$VERTICAL-04-01$VERTICAL-04-02$VERTICAL-04-03$VERTICAL-04-04$VERTICAL-04-05$",
  "VERTICAL-04-06$VERTICAL-05-00$VERTICAL-05-01$VERTICAL-05-02$VERTICAL-05-03$VERTICAL-05-04$VERT",
  "ICAL-05-05$VERTICAL-05-06$VERTICAL-06-00$VERTICAL-06-01$VERTICAL-06-02$VERTICAL-06-03$VERTICAL",
  "-06-04$VERTICAL-06-05$VERTICAL-06-06~1F0A0!PLAYINGcDbi$ACEoQSPADES<$x8<$wN<$hh<$gW<$tZ<$s2<$fJ",
  "<$of<$wd<$j3<$k3<$q5<$kS~1F0B1$ACEoQiN<$x8<$wN<$hh<$gW<$tZ<$s2<$fJ<$of<$wd<$j3<$k3<$q5<$kS$rnk",
  "c~1F0C1$ACEoQDIAMONDS<$x8<$wN<$hh<$gW<$tZ<$s2<$fJ<$of<$wd<$j3<$k3<$q5<$kS$bYkc~1F0D1$ACEoQCLUB",
  "S<$x8<$wN<$hh<$gW<$tZ<$s2<$fJ<$of<$wd<$j3<$k3<$q5<$kS$y7kc$FOOL$TRUMP-1$TRUMP-2$TRUMP-3$TRUMP-",
  "4$TRUMP-5$TRUMP-6$TRUMP-7$TRUMP-8$TRUMP-9$TRUMP-10$TRUMP-11$TRUMP-12$TRUMP-13$TRUMP-14$TRUMP-1",
  "5$TRUMP-16$TRUMP-17$TRUMP-18$TRUMP-19$TRUMP-20$TRUMP-21~1F100!eSz2hquV$dr;_oZ;_x8;_wN;_hh;_gW;",
  "_tZ;_s2;_fJ;_of!DINGBATc9szeSz2>_nQ!c9z2zfub_aKaZ_fftGzfphbm!pClycBlMA&B&C&D&E&F&G&H&I&J&K&L&M",
  "&N&O&P&Q&R&S&T&U&V&W&X&Y&Z!xqtkcdlycBlMS!c9jYlycBlMC(R_CD_WZ!COPYLEFTvw!uBlycBlMA&B&C&D&E&F&G&",
  "H&I&J&K&L&M&N&O&P&Q&R&S&T&U&V&W&X&Y&Z_HV_MV_SD_SS_PPV_WC!nQc9lycBlMA(B(C(D(E(F(G(H(I(J(K(L(M(N",
  "(O(P(Q(R(S(T(U(V(W(X(Y(Z!rdMCtG;_MD;_MR!c9CC_Czfphbm_HUMANgJ!nQuBlycBlMA(B(C(D(E(F(G(H(I(J(K(L",
  "(M(N(O(P(Q(R(S(T(U(V(W(X(Y(Z!dSnQuBlycBlMP!nQuBIC$pn$sm$AB$WC!uADJ!uBCL_COOL_FREE_ID_NEW_nW_OK",
  "_SOS_ynzfglmv_VS_wND_sLsH_x8K;_hh;_fJ_gWqmoZ<_s2_x7qmx8_t4P;_oZjhx1_lyuglMD_HC_HDR_HI-RES_LOSS",
  "LESS_SHV_UHD_VOD!MASK WORKvw~1F1E6!REGIONALjHvwlMA&B&C&D&E&F&G&H&I&J&K&L&M&N&O&P&Q&R&S&T&U&V&W",
  "&X&Y&Z!uAi3HOKA!uBkyKOKO$sm~1F210_CJKyjIDEOGRAPH-624B%IDEOGRAPH-5B57%IDEOGRAPH-53CC_kyeq_CJKyj",
  "jt%IDEOGRAPH-591A%IDEOGRAPH-89E3%IDEOGRAPH-5929%IDEOGRAPH-4EA4%IDEOGRAPH-6620%IDEOGRAPH-7121%I",
  "DEOGRAPH-6599%IDEOGRAPH-524D%IDEOGRAPH-5F8C%IDEOGRAPH-518D%IDEOGRAPH-65B0%IDEOGRAPH-521D%IDEOG",
  "RAPH-7D42%IDEOGRAPH-751F%IDEOGRAPH-8CA9%IDEOGRAPH-58F0%IDEOGRAPH-5439%IDEOGRAPH-6F14%IDEOGRAPH",
  "-6295%IDEOGRAPH-6355%IDEOGRAPH-4E00%js%IDEOGRAPH-904A%IDEOGRAPH-5DE6%IDEOGRAPH-4E2D%IDEOGRAPH-",
  "53F3%IDEOGRAPH-6307%IDEOGRAPH-8D70%ju%IDEOGRAPH-7981%IDEOGRAPH-7A7A%IDEOGRAPH-5408%IDEOGRAPH-6",
  "E80%IDEOGRAPH-6709%IDEOGRAPH-6708%IDEOGRAPH-7533%IDEOGRAPH-5272%IDEOGRAPH-55B6%IDEOGRAPH-914D~",
  "1F240!xqtkcdCJKyjIDEOGRAPH-672C(js(jt(IDEOGRAPH-5B89(IDEOGRAPH-70B9(ju(IDEOGRAPH-76D7(IDEOGRAP",
  "H-52DD(IDEOGRAPH-6557~1F250!c9jrADVANTAGE$ACCEPT~1F260!sfvwhdFU%mb%SHOU%zr%SHUANGXI%CAI~1F300!",
  "CYCLONE!FOGGY!djyg!oczfSTARS!SUNRISEpfMOUNTAINS_!dcbaDUSK!SUNSETpfcn!RAINBOW!chbaoc!yVyW!VOLCA",
  "NO!MILKY WAY!fEGLOBE EUROPE-AFRICA$AMERICAS$ASIA-AUSTRALIA!GLOBEzfMERIDIANS!NEWnjvw<!WAXINGdO<",
  "!gSq3<!WAXING GIBBOUS<!hq<!WANING GIBBOUS<!LASTq3<!WANINGdO!dOnj!NEWnjzfgx=!gSq3>!LAST=!hq<!vh",
  "!GLOWINGuO;!SHOOTING!wx!bYDROPLET!y7vh$zfugdn;$BEHIND&zfrc=!$SNOW$lR$TORNADO!FOG!zdBLOWINGgx!H",
  "OTfe!TACO!BURRITO!CHESTNUT!SEEDLING!EVERGREENxt;!DECIDUOUS;!ps!CACTUS!HOT PEPPER!TULIP!CHERRY ",
  "BLOSSOM!ROSE!HIBISCUS!SUNFLOWER!BLOSSOM!fDoQMAIZE$rG!HERB!hhlACLOVER!MAPLElA;!FALLEN!lAg7jDzd!",
  "MUSHROOM!TOMATO!AUBERGINE!GRAPES!MELON!WATERMELON!TANGERINE!LEMON!BANANA!PINEAPPLE!rnAPPLE;!h8",
  "!PEAR!PEACH!CHERRIES!STRAWBERRY!HAMBURGER!SLICEoQPIZZA!mFoXb6!POULTRYlH!rGCRACKER_bq!COOKEDrG;",
  "!CURRYaD!STEAMING BOWL!SPAGHETTI!BREAD!FRENCH FRIES!ROASTED SWEET POTATO!DANGO!ODEN!SUSHI!FRIE",
  "D SHRIMP!gTCAKEzfSWIRL DESIGN!umjmCREAM!SHAVEDjm!jmCREAM!DOUGHNUT!COOKIE!CHOCOLATEbu!CANDY!LOL",
  "LIPOP!CUSTARD!HONEY POT!SHORTCAKE!BENTOcb!POToQhb!COOKING!FORKaDk2!TEACUPzhHANDLE!SAKEb8aDCUP!",
  "zehX;!COCKTAIL!TROPICAL DRINK!BEER MUG!CLINKING BEER MUGS!bhb8!FORKaDk2zfPLATE!b8zfPOPPING COR",
  "K!POPCORN!rF!WRAPPED PRESENT!BIRTHDAY CAKE!JACK-O-LANTERN!c4xt!FATHERc4!FIREWORKS!FIREWORK SPA",
  "RKLER!BALLOON!PARTY POPPER!CONFETTIbq!TANABATAxt!dSFLAGS!PINEes!j4DOLLS!CARP STREAMER!zdCHIME!",
  "njVIEWING CEREMONY!sFSATCHEL!GRADUATION CAP!iLzfw7oXwtlB!BOUQUEToQFLOWERS!mYMEDAL!REMINDERrF!n",
  "xkKzfJACKS!STUDIOmO!LEVEL SLIDER!dFKNOBS!BEAMEDa3nxoz<_eE!FILM FRAMES!ADMISSION TICKETS!CAROUS",
  "ELjc!FERRISy5!ROLLER COASTER!FISHING POLEaDgT!mO!MOVIEcv!CINEMA!HEADPHONE!ARTIST PALETTE!xoiG!",
  "CIRCUS TENT!TICKET!CLAPPER BOARD!PERFORMING ARTS!VIDEO GAME!eXHIT!SLOTmf!BILLIARDS!GAME DIE!BO",
  "WLING!g6PLAYING CARDS!nxox!ntnxoz!SAXOPHONE!GUITAR!nxkK!TRUMPET!VIOLIN!nxSCORE!RUNNING SHIRTzf",
  "SASH!TENNIS RACQUETaDbq!SKIaDSKI BOOT!BASKETBALLaDHOOP!CHEQUEREDgY!SNOWBOARDER!RUNNER!SURFER!S",
  "PORTS MEDAL!TROPHY!jcRACING!AMERICAN FOOTBALL;!RUGBY!SWIMMER!WEIGHT LIFTER!GOLFER!RACING MOTOR",
  "CYCLE_cC!CRICKET BATaDbq!VOLLEYBALL!FIELD HOCKEYuRaDbq!jmHOCKEYuRaDPUCK!vQTENNIS PADDLEaDbq!SN",
  "OW CAPPEDnk!CAMPING!BEACHzfyg!cmdA!jecn!dc!DERELICTjecm;!CLASSICAL!DESERT_ISLAND!NATIONAL PARK",
  "!STADIUM!jecm_zfGARDEN!OFFICEcm!j4POST OFFICE<!EUROPEAN!HOSPITAL!BANK!AUTOMATED TELLERmf!HOTEL",
  ";!LOVE!CONVENIENCE STORE!sF!DEPARTMENT STORE!FACTORY!IZAKAYA LANTERN!j4CASTLE;!EUROPEAN!y7PENN",
  "ANT;!bY!WAVINGy7gY;_bY!ROSETTE;!bY!LABEL!BADMINTON RACQUETaDSHUTTLECOCK!BOWaDaZ!AMPHORA!EMOJIm",
  "3FITZPATRICK TYPE-1-2%TYPE-3%TYPE-4%TYPE-5%TYPE-6!RAT!nl!OX!yVBUFFALO!COW!wT!LEOPARD!RABBIT!cI",
  "!fs!CROCODILE!WHALE!SNAIL!uj!jc!RAM!GOAT!tj!nb!ROOSTER!CHICKEN!fe!PIG!BOAR!fT!OCTOPUS!uwtk!BUG",
  "!ANT!HONEYBEE!LADY BEETLE!gT;!TROPICAL!BLOWFISH!xW!HATCHING CHICK;!bh<!FRONT-FACING!bV!PENGUIN",
  "!KOALA!POODLE!DROMEDARY CAMEL;!BACTRIAN!DOLPHIN!nlgx;!COW;!wT;!RABBIT;!cI;!fs!SPOUTING WHALE!j",
  "cgx;!nb;!fe;!PIG;!FROG;!HAMSTER;!WOLF;!BEAR;!PANDA!PIGot!PAW PRINTS!CHIPMUNK!gu!gr!fD!ot!nm!xl",
  "!y7ynqpbkjG=_fo=_lB=_rY!FISTEDiqtG<!WAVING<!OK;!THUMBSyn;_fo;!CLAPPINGiB<!o2!CROWN!zkiG!EYEGLA",
  "SSES!NECKTIE!T-SHIRT!JEANS!DRESS!KIMONO!BIKINI!zkdm!PURSE!HANDBAG!POUCH!MANStu;!ATHLETIC;!HIGH",
  "-HEELED!zkSANDAL_BOOTS!FOOTPRINTS!BUSTjDtH<!BUSTS!BOY!GIRL!mq!zj!FAMILY!mqaDzji6iB<!x8mK<_WOME",
  "N!qrOFFICER!zjzfBUNNY EARS!BRIDEzfVEIL!pTzfBLONDij!mqzfGUAp1MAO$TURBAN!OLDERmq_zj!bh!dAWORKER!",
  "PRINCESS!j4OGRE_GOBLIN!hP!bhANGEL!EXTRATERRESTRIAL ALIEN!ALIEN MONSTER!IMP!t9!jJDESKpT!GUARDSM",
  "AN!DANCER!LIPSTICK!NAIL POLISH!gxMASSAGE!HAIRCUT!BARBER POLE!SYRINGE!PILL!kVmv!LOVElM!r5!GEMuU",
  "!kV!BOUQUET!COUPLEzfiL!WEDDING!BEATINGiL;!ci!x8iN!SPARKLINGiL;!GROWING!iLzfaZ!b4iL;!h8;!zB;!qV",
  "!iLzfrF!rBiN!iLes!eNSHAPEzfAfgjM!fRlQBULB!ANGERvw!BOMB!ucvw;!COLLISION;!SPLASHINGvt!DROPLET!ek",
  "vw!PILEoQPOO!FLEXED BICEPS!DIZZYvw!uuBALLOON;!THOUGHT!y7g6!jhPOINTSvw!MONEY BAG!d2EXCHANGE!iPf",
  "ftG!dNcD!BANKNOTEzfYENtG;$ff;$EURO;$qv!MONEYzfWINGS!cTzfysTRENDaDYENtG!SEAT!PERSONALdv!BRIEFCA",
  "SE!MINIDISC!FLOPPY DISK!OPTICALe1!DVD!gKg9<!o2!pozfd0_FACINGyn!CALENDAR;!TEAR-OFF!cDjG!cTzfysT",
  "REND;$fq!bucT!CLIPBOARD!PUSHPIN;!se!PAPERCLIP!uWRULER;!xA!BOOKMARK TABS!LEDGER!NOTEBOOK_zfDECO",
  "RATIVEdM!djBOOK;!o2;!h8;!b4;!o8!BOOKS!nIBADGE!SCROLL!MEMO!wcrj!PAGER!FAXmf!sCANTENNA!PUBLIC AD",
  "DRESS LOUDSPEAKER!CHEERING MEGAPHONE!OUTBOX TRAY;!INBOX!PACKAGE!E-MAILvw!INCOMINGf6!f6zffqaZad",
  "!djMAILBOXzfLOWEREDgY;%rd>!o2;%LOWERED!POSTBOX!qujb!nV!m2PHONE$zfr4aZbalB!VIBRATION MODE!m2PHO",
  "NE OFF!onm2PHONES!ANTENNAzfby!cv_zfFLASH!VIDEOcv!TELEVISION!RADIO!VIDEOCASSETTE!FILM PROJECTOR",
  "!PORTABLE STEREO!PRAYER BEADS!TWISTEDr4a1;!dhr4aDlGo2c8*zfc9oZpj_fqaDyso2c8a1/!aK!l7BRIGHTNESS",
  "vw<!i0!SPEAKERzfcyu1__zfoZupyW$wNupWAVES!BATTERY!fRPLUG!lDMAGNIFYINGhX<!r0!LOCKzfINK PEN!djLOC",
  "KzfkJ;!!LOCK;!o2!bG_zfcyu1!BOOKMARK!LINKvw!RADIOcr!bizflGaZad>!f1<!oXzfglmvzflBrY<!SOONzfr4<!x",
  "ozfys!onoZyhfKvw!KEYCAPwd!INPUTvwhdlycBLETTERS;&ug%NUMBERS%vL%lyLETTERS!gR!fRTORCH!WRENCH!io!N",
  "UTaDBOLT!HOCHO!PISTOL!MICROSCOPE!TELESCOPE!CRYSTALbq!tZqnuOzfmRfg!j4vwhdBEGINNER!xBEMBLEM!bYuA",
  "cr<!y7!lwrnc8;_b4_o8eN;_b4;!ugo8;_b4!yornxy<!fp<!youg=!fp!l9rYtay7c8>!yq!c9dQPOMMEE!dQPOMMEEzf",
  "imbH$!owlBsTzfwNfi>_rY!vwhdMARKS CHAPTER!y7lydQ<!iP;!CELTIC!oUvw!DOVEoQpJ!KAABA!MOSQUE!SYNAGOG",
  "UE!MENORAHzfofBRANCHES!BOWLoQHYGIEIA!dggxoZOCLOCK;$x8;$wN;$hh;$gW;$tZ;$s2;$fJ;$of;$wd;$fU;$xY$",
  "ONE-THIRTY$TWO-THIRTY$THREE-THIRTY$FOUR-THIRTY$FIVE-THIRTY$SIX-THIRTY$SEVEN-THIRTY$EIGHT-THIRT",
  "Y$NINE-THIRTY$TEN-THIRTY$ELEVEN-THIRTY$TWELVE-THIRTY!rYSPEAKER$zfoZupyW%wNupWAVES!BULLHORN_zfu",
  "pWAVES!RINGINGbG!BOOK!CANDLE!MANTELPIECEdg!bYt9aDdR!onPIRACY!HOLE!mqjDBUSINESS SUIT LEVITATING",
  "!SLEUTHo7SPY!DARKvk!SPIDER_WEB!JOYSTICK!mqDANCING!lBiqwcrj!wcrjzfpo!rYiqwcrj!y7TOUCHTONEwc<!bY",
  "!wcoXxooQMODEM!CLAMSHELLm2PHONE!bioQf6;!STAMPED!f6zflR!g8f6;!PENpfSTAMPED!LINKED PAPERCLIPS!bY",
  "PUSHPIN!l9lBPENCIL$BALLPOINT PEN;$FOUNTAIN$PAINTBRUSH$CRAYON!lBWRITINGiq!xUOKiqtG!rdiqzfgQSPLA",
  "YED?!rA_THUMBSyntG;$fo_VICTORYiq_iqzfmRgPgm!rdiqzfPARTbPmRaDr5gQ!y7foqplBiqjG;!tEy7lBqp<$rY<_b",
  "YlB<$rY;!bYlBqpbk=_rY;!tEy7ynqp<$fo<_bYyn<$fo;!bYynqpbk=_fo_iL!DESKTOPdv!kKaDnl!wNNETWORKED CO",
  "MPUTERS!PRINTER!POCKET CALCULATOR!bYiEtkFLOPPY DISK>!y7=!um!TAPE CARTRIDGE!WIREDkK!oZcrnl<!x8<",
  "!wN!TRACKBALL!oTPERSONALdv!iEDISK!sH!PRINTER ICON;!FAX;!OPTICALe1!fczfwn%aDPICTURE;$<!FRAME$TI",
  "LES$aCX!bYg9;!;!o2!cDjGDIVIDERS_gKcb!gKCABINET!fXox$po$PAD!ox_po_PAD!fXfc_po_PAGES!fc!po!PAGES",
  "!WASTEBASKET!uwoxPAD;_CALENDAR!DESKTOP WINDOW!MINIMIZE!MAXIMIZE!OVERLAP!dhrYaDlBsTa1!cyX!jEFON",
  "T SIZEvw=!DECREASE!COMPRESSION!oTkJ!ROLLED-UPnV!pozfc9wn!uTcT!ebk2!lT!SPEAKINGiIjDtH!wNrgad$bH",
  "$lB$rY!lBuucl<!rY!x8uuBUBBLES<!wN!lBTHOUGHTcl<!rY;!lBANGER<!rY;!MOOD<!lR$!bscbzfbs_sIX<_cbzf<_",
  "b5=_cbzf!lQcVmv!bscbzfb5cV!WORLD MAP!MOUNT FUJI!TOKYO TOWER!STATUEoQLIBERTY!tHoQJAPAN!MOYAI!h9",
  "gx$zfuigu!gxzfTEARSoQJOY!uigxzfo2nm(aDuigu)COLDvt)wVgu%HALO%HORNS!WINKINGgx!uigxzfuigu!gxSAVOU",
  "RING DELICIOUShb!RELIEVEDgx!uigxzfiMgu%vk!SMIRKINGgx;!nU;!EXPRESSIONLESS;!UNAMUSED!gxzfCOLDvt!",
  "PENSIVEgx;!CONFUSED;!CONFOUNDED;!kW!gxTHROWING AkV!kWgxzfuigu;%dj!gxzfSTUCK-OUTxl&aDWINKINGgr(",
  "wVgu!e0gx;!WORRIED;!ANGRY;!qw;!dW;!PERSEVERING!gxzfLOOKoQTRIUMPH!e0cqRELIEVEDgx!hogxzfo2nm!ANG",
  "UISHEDgx;!FEARFUL;!WEARY;!SLEEPY;!TIRED;!GRIMACING;!LOUDLYdW!gxzfo2nm!HUSHEDgx!gxzfo2nmaDCOLDv",
  "t_SCREAMINGjDFEAR!ASTONISHEDgx;!FLUSHED;!uc;!DIZZY!gxzhnm_zfMEDICAL MASK!h9cIgxzfuigu!cIgxzfTE",
  "ARSoQJOY!uicIgxzfo2nm&iMgu!cIgxzfWRYuh!kWcIgxzfdjgu!qwcIgx<!dW<!WEARY;!udho;_ui;!UPSIDE-DOWN!g",
  "xzfROLLINGgu$onGOOD GESTURE;$OK!pTBOWING DEEPLY!SEE-NO-EVILnb;!HEAR-NO-EVIL;!SPEAK-NO-EVIL!HAP",
  "PYpTRAISINGoZiq!pTRAISING BOTHiBjDCELEBRATION_ho_zfqwgx$FOLDEDiB!osy1qplA=!ur<!osfF=!ur<!xUosy",
  "1=_ur<_osfF=_ur;!osy1qpVINE>!ur=!osfF>!ur=!iPosy1>_ur=_osfF>_ur!osy1qpBUD=!ur<!osfF=!ur<!iPosy",
  "1=_ur<_osfF=_ur!HOLLOW QUILTuApb&jDbYuA!SOLID QUILTuApb&jDbYuA!lGROCKET;!ys;!r4;!fq!sIlPETpb>!",
  "iP<!lPo2>!iP;_aB<!vs;!sziPfkxUdrq7mv>%?$l7;!iPjQ<!sz=!iP!yHiPuo;$rz!CHECKER BOARD<!rz!ROCKET!H",
  "ELICOPTER!STEAMl1!rbcC!HIGH-SPEED TRAIN$zfcoot!TRAIN!METRO!lQRAIL!STATION!TRAM_cC!BUS;!oY!TROL",
  "LEYBUS!BUSuV!MINIBUS!AMBULANCE!gRENGINE!qrcC<!oY!TAXI;!oY!AUTOMOBILE;!oY!RECREATIONAL VEHICLE!",
  "DELIVERYxH!ARTICULATED LORRY!TRACTOR!MONORAIL!nkrb;!vp!nkCABLEWAY!AERIAL TRAMWAY!SHIP!ROWBOAT!",
  "SPEEDBOAT!jaTRAFFIClQ<!yF!dAtG!qrCARSrBlQ!xAgYoXPOST!DOOR!onf5tG!SMOKINGvw<!on;!PUT LITTERjDIT",
  "Sqh;!e9ouLITTER;!POTABLEyV<!NON-POTABLE!BICYCLE!onBICYCLES!BICYCLIST;!nk!pK!onPEDESTRIANS!CHIL",
  "DRENdV!MENSvw;!WOMENS!RESTROOM!bhvw!TOILET!yVCLOSET!SHOWER!BATH!BATHTUB!PASSPORTdF!CUSTOMS!BAG",
  "GAGE CLAIM!lBLUGGAGE!xyzfsfdL!PROHIBITEDtG!c9jJuq!BOYSvw;!GIRLS!COUCHaDLAMP!ucACCOMMODATION!SH",
  "OPPING BAGS!BELLHOPbG!BED!qhoQWORSHIP!OCTAGONALtG!SHOPPING TROLLEY!STUPA!PAGODA!HINDU TEMPLE!H",
  "UT!ELEVATOR~1F6DD!PLAYGROUND SLIDE!y5!r5BUOY!ioaDWRENCH!to!OILft!MOTORWAY!rbTRACK!MOTOR BOAT!y",
  "omYan;_;_ug<!;!NORTHEAST-POINTING!aneC_ARRIVING~1F6F0!sC!oYgRENGINE!DIESELl1!PASSENGER SHIP!SC",
  "OOTER;!MOTOR!CANOE!SLED!g8SAUCER!SKATEBOARD!AUTO RICKSHAW!PICKUPxH!ROLLER SKATE~1F700!ALCHEMIC",
  "ALvwhdQUINTESSENCE%AIR%gR%fE%yV%AQUAFORTIS%AQUA REGIA&REGIA-2&VITAE&VITAE-2%VINEGAR%VINEGAR-2%",
  "VINEGAR-3%SULFUR;%PHILOSOPHERS;%bY%MERCURYu7&SUBLIMATE-2&SUBLIMATE-3%CINNABAR%st%NITRE%VITRIOL",
  "%VITRIOL-2%ROCKst&SALT-2%h0%SILVER%IRON ORE&ORE-2%CROCUSoQIRON<%REGULUS%dGORE;%IRON-COPPER%u7o",
  "QdG<%CROCUS(COPPER-2%dGANTIMONIATE<%stoQ%u7oQstoQdG%VERDIGRIS%TIN ORE;%LEAD;%ANTIMONY%u7oQANTI",
  "MONY<%st=%u7oQ<%VINEGAR<%REGULUS(ANTIMONY-2&%REGULUS-2%REGULUS-3%REGULUS-4%ALKALI%ALKALI-2%MAR",
  "CASITE%SAL-AMMONIAC%ARSENIC%REALGAR%REALGAR-2%AURIPIGMENT%BISMUTH ORE%TARTAR%TARTAR-2%QUICK LI",
  "ME%BORAX%BORAX-2%BORAX-3%ALUM%OIL%ux%TINCTURE%GUM%WAX%POWDER%CALX%TUTTY%CAPUT MORTUUM%SCEPTERo",
  "QJOVE%CADUCEUS%xB;%STARRED%LODESTONE%SOAP%URINE%jcDUNG%ASHES;%POT%BRICK;%POWDERED%AMALGAM%STRA",
  "TUM SUPER STRATUM(STRATUM-2%SUBLIMATION%PRECIPITATE%DISTILL%DISSOLVE%DISSOLVE-2%PURIFY%PUTREFA",
  "CTION%CRUCIBLE%CRUCIBLE-2%CRUCIBLE-3%CRUCIBLE-4%CRUCIBLE-5%ALEMBIC%BATHoQMARY(VAPOURS%RETORT%H",
  "OUR%oc%DAY-NIGHT%ni%ilDRAM&OUNCE~1F780!bYlDISOSCELESrYxy=_yo=_r0=_fp_udugc8;!mHb5y7=!<!iP=!yH=",
  "!gq;!y7c8dDbYug!sev1!bYw6uA;_udug;!lQy7<!mH<!b5<!iP=!yH=!gq;!y7uAdDbYyHug;&mH!uAv1!bYw6eN;_yHu",
  "g<_mH<!y7eNdDbYyH;&mH!eNv1!bYw6ma;_yHug<_mH<!y7madDbY!wCh7dQ<!lQ<!mH<!b5=!yH<_iP=!gq!wCsu;!lQ;",
  "!mH;!b5;!iP<!yH<!gq!lQgWSPOKEDa8=!mH=!b5=!iP>!yH>!gq<!lQtZ=!mH=!b5=!iP>!yH>!gq<!lQfJ=!mH=!b5=!",
  "iP>!yH!lQwNqnbYuO>!mH>!;!mHwNqnqe;!lQhhqnbY>!mH>!;!mHhhqnqe>!rzlQ;!lQgWqnbY>!iP=!mHtZ>!iP;!tZq",
  "nqe;!mHfJqnbY>!iP?!yH;!iPfJqnqe;!lQxYqnbY>!iP;%qe!c9xy<!nQ!c9uA<!nQ~1F7E0!lwo8c8;_zB;_h8;_qV;_",
  "BROWN_rnuA;_b4;_o8;_zB;_h8;_qV;_BROWN~1F7F0!iPgbtG~1F800!lGaZzfugxya0?!ys?!r4?!fq<!lGaZzfmH?!y",
  "s?!r4?!fq<!lGaZzflw?!ys?!r4?!fq~1F810;!lGaZzfuggd?!ys?!r4?!fq<!lGaZzf>!ys>!r4>!fq>!iPlG>_ys>_r",
  "4>_fq<_lGaZzflw?_ys?_r4?_fq!lGxzaZzfnJSHAFT?!ys?!r4?!fq;!lGxzaZzfmH?!ys?!r4?!fq;!lGxzaZzfb5?!y",
  "s?!r4?!fq;!lGxzaZzfiP?!ys?!r4?!fq<!lGxzaZzfyH/!ys/!r4/!fq!lGFINGER-POSTaZ<!ys<!r4<!fq;!lGuB<!y",
  "s<!r4<!fq;!lGCOMPRESSED<!ys<!r4<!fq<!lGiP=!ys=!r4=!fq;!lGiP<!ys<!r4<!fq~1F850;!lGsz<!ys<!r4<!f",
  "q<!osy1<_fF=!ur<_y1<!lBrY<!ynfo~1F860;!zalGlQbv=_ys=_r4=_fq=_osy1=$fF>_ur=$y1<_lG<_ys<_r4<_fq<",
  "_osy1<$fF=_ur<$y1<_lGmH=_ys=_r4=_fq=_osy1=$fF>_ur=$y1<_lGiP=_ys=_r4=_fq=_osy1=$fF>_ur=$y1=_lGy",
  "H>_ys>_r4>_fq>_osy1>$fF?_ur>$y1~1F890!lGxya0<!ys<!r4<!fq<!lGy7aZzg?!ys?!r4?!fq!lGaZzfowvV>!ys>",
  "!r4>!fq!iPaZSHAFTzboZ&x8wE&oZil(wD!lGBOTTOM-SHADEDy7aZ<!r4b9SHADED=!lGxo>!r4<!lGlE<!r4r1=!lG<!",
  "r4lE<!lGbjta>!r4=!lGhn>!r4!y7aZSHAFTzboZ&x8wE~1F8B0!aZqpyswwosy1;$r4wwd6ur~1F900!c9dQFORMEEzfh",
  "hfi;&x8%!lBilc8zfhhfi;&wN;&x8&fg%!DOWNWARD FACINGi8;$ow$i8zffg=$ow!PINCHEDgQ!y7iL;!BROWN!PINCH",
  "INGiq!ZIPPER-MOUTHgx;!MONEY-MOUTH!gxzfwx!NERDgx;!THINKING!gxzfHEAD-BANDAGE!ROBOTgx;!HUGGING!tG",
  "oQwtHORNS!CALLmCiq;!rdbioQ!lCFIST;!rZ!HANDSHAKE!iqzfjGaDmRgQdS!I LOVE YOUiqtG!gxzfCOWBOYiG!CLO",
  "WNgx;!NAUSEATED!ROLLINGoXwtg3LAUGHING!DROOLINGgx;!LYING!gxps!SNEEZINGgx!gxzfoZEYEBROWrd!h9gxzf",
  "uOgu%oZlwaDoZuggr!gxzfgPCOVERINGdjlT!SERIOUSgxzfvLCOVERINGnm<!uigxzfuiguaDiq!gxzfo2nmVOMITING!",
  "SHOCKEDgxzfEXPLODINGiI!PREGNANTzj!BREAST-FEEDING!PALMSynxa!SELFIE!PRINCE!mqjDTUXEDO!MOTHERc4!S",
  "HRUG!pTDOING CARTWHEEL!JUGGLING!FENCER!MODERN PENTATHLON!WRESTLERS!yVPOLO!HANDBALL!DIVING MASK",
  "!WILTEDg6!ftzfDRUMSTICKS!CLINKING GLASSES!TUMBLERhX!uy!hZNET!RIFLE!gSqhMEDAL<!sL<!wD!BOXING GL",
  "OVE!MARTIAL ARTS UNIFORM!CURLINGuU!LACROSSEuRaDbq!SOFTBALL!g8e1!CROISSANT!AVOCADO!CUCUMBER!BAC",
  "ON!POTATO!CARROT!BAGUETTE BREAD!h8SALAD!SHALLOW PANoQhb!STUFFEDg0!EGG!hXoQMILK!PEANUTS!KIWIFRU",
  "IT!PANCAKES!DUMPLING!FORTUNE COOKIE!TAKEOUTcb!CHOPSTICKS!BOWLzfuy!CUPzfSTRAW!COCONUT!BROCCOLI!",
  "PIE!PRETZEL!CUToQmF!SANDWICH!CANNEDhb!LEAFYh8!MANGO!njCAKE!BAGEL!uigxzfuiguaDwNiN!YAWNINGgx!ui",
  "gxzfTEAR!gxzfPARTYjbaDPARTYiG$UNEVENguaDyXnm!OVERHEATEDgx;!FREEZING!NINJA!DISGUISEDgx!gxi6biTE",
  "ARS_zfPLEADINGgu!SARI!LAB COAT!GOGGLES!HIKING BOOT!gZtu!CRAB!LIONgx!SCORPION!TURKEY!UNICORNgx!",
  "EAGLE!DUCK!BAT!SHARK!OWL!FOXgx!BUTTERFLY!DEER!GORILLA!LIZARD!RHINOCEROS!SHRIMP!SQUID!GIRAFFEgx",
  ";!ZEBRA!HEDGEHOG!SAUROPOD!T-REX!CRICKET!KANGAROO!LLAMA!PEACOCK!HIPPOPOTAMUS!PARROT!RACCOON!LOB",
  "STER!MOSQUITO!MICROBE!BADGER!SWAN!MAMMOTH!DODO!SLOTH!OTTER!ORANGUTAN!SKUNK!FLAMINGO!OYSTER!BEA",
  "VER!BISON!SEAL!GUIDEfe!PROBING CANE!EMOJI COMPONENTrnij;$d1$BALD$y7ij!b6!lH!hc!xn!SUPERHERO!SU",
  "PERVILLAIN!spVEST!fDzfHEARING AID!MOTORIZEDy6;!MANUAL!MECHANICAL ARM_lH!CHEESE WEDGE!CUPCAKE!s",
  "tSHAKER!BEVERAGEcb!GARLIC!ONION!FALAFEL!WAFFLE!BUTTER!MATE DRINK!jmCUBE!clTEA!TROLL!STANDINGpT",
  ";!KNEELING;!DEAF!gxzfMONOCLE!ADULT!c1!OLDER ADULT!BEARDEDpT!pTzfHEADSCARF_jDSTEAMY ROOM_CLIMBI",
  "NG_jDl6qs!MAGE!FAIRY!VAMPIRE!MERPERSON!ELF!GENIE!ZOMBIE!BRAIN!o8iL!BILLED CAP!SCARF!GLOVES!COA",
  "T!SOCKS!rnGIFTf6!FIRECRACKER!JIGSAW PUZZLEp2!TEST TUBE!PETRIe2!DNAfkHELIX!COMPASS!ABACUS!gREXT",
  "INGUISHER!TOOLBOX!BRICK!MAGNET!LUGGAGE!LOTIONb8!SPOOLoQwM!bqoQYARN!spPIN!TEDDY BEAR!BROOM!BASK",
  "ET!ROLLoQpv!buoQSOAP!SPONGE!RECEIPT!NAZAR AMULET!nUcYkS$q5$sa$bX$k3$pH!y7cYk3sbFORTY-FIVEev?!b",
  "Y?!nU;!y7cYkSsboh=$q5=$sa=$bX=$k3=$pH=!bYcYkS=$q5=$sa=$bX=$k3=$pH=!nUcYkS=$q5=$sa=$bX=$k3=$pH;",
  "!y7cYk3sboZjhTHIRTY-FIVE[!bY[!nU!y7cYxUkS%q5%sa%bX%k3%pH!bYcYxUkS%q5%sa%bX%k3%pH!nUcYxUkS%q5%s",
  "a%bX%k3%pH!y7cYk3sbx8jhx3ev[!bY[!nU;!y7cYkSsbx8jhs4?$q5?$sa?$bX?$k3?$pH?!bYcYkS?$q5?$sa?$bX?$k",
  "3?$pH?!nUcYkS?$q5?$sa?$bX?$k3?$pH;!y7cYk3sbwNjhgG[!bY[!nU!y7cYgc<!bY<!nU!y7cYgcsbohev?!bY?!nU!",
  "y7cYk5$k6$k4!bYcYk5$k6$k4~1FA60!XIANGQIrnGENERAL$MANDARIN$fT$jc$cS$CANNON$SOLDIER_bYGENERAL$MA",
  "NDARIN$fT$jc$cS$CANNON$SOLDIER~1FA70!BALLET SHOES!ONE-PIECE SWIMSUIT!BRIEFS!tw!THONG SANDAL~1F",
  "A78!DROPoQBLOOD!ADHESIVE BANDAGE!STETHOSCOPE!X-RAY!CRUTCH~1FA80!YO-YO!KITE!PARACHUTE!b7!MAGIC ",
  "WAND!PINATA!NESTING DOLLS~1FA90!RINGED PLANET!CHAIR!RAZOR!AXE!DIYA LAMP!BANJO!mYiS!ACCORDION!l",
  "4ft!COIN!cGSAW!SCREWDRIVER!LADDER!i8!MIRROR!WINDOW!PLUNGER!SEWING NEEDLE!KNOT!BUCKET!nlTRAP!TO",
  "OTHBRUSH!iJ!PLACARD!ROCK!MIRRORbq!jpcD!l7BATTERY!HAMSA~1FAB0!FLY!WORM!BEETLE!COCKROACH!POTTED ",
  "PLANT!WOOD!gC!l6!CORAL!fXNEST!NESTzfEGGS~1FAC0!ANATOMICALiL!LUNGS!PEOPLE HUGGING!PREGNANTmq_pT",
  "!pTzfCROWN~1FAD0!BLUEBERRIES!bGPEPPER!OLIVE!g0!TAMALE!FONDUE!TEAPOT!POURING LIQUID!BEANS!JAR~1",
  "FAE0!MELTINGgx;!SALUTING!gxzfo2guaDiqpfnm$PEEKINGgr$eKnm!fjlSgx!BITING LIP!BUBBLES~1FAF0!iqzfj",
  "GgPaDwPdS!r4iq;!lG;!psfo;_yn!jGqpbawtVIEWER!iLiB~1FB00!b3SEXTANT-1_SEXTANT-2_SEXTANT-12_SEXTAN",
  "T-3_SEXTANT-13_SEXTANT-23_SEXTANT-123_SEXTANT-4_SEXTANT-14_SEXTANT-24_SEXTANT-124_SEXTANT-34_S",
  "EXTANT-134_SEXTANT-234_SEXTANT-1234_SEXTANT-5_SEXTANT-15_SEXTANT-25_SEXTANT-125_SEXTANT-35_SEX",
  "TANT-235_SEXTANT-1235_SEXTANT-45_SEXTANT-145_SEXTANT-245_SEXTANT-1245_SEXTANT-345_SEXTANT-1345",
  "_SEXTANT-2345_SEXTANT-12345_SEXTANT-6_SEXTANT-16_SEXTANT-26_SEXTANT-126_SEXTANT-36_SEXTANT-136",
  "_SEXTANT-236_SEXTANT-1236_SEXTANT-46_SEXTANT-146_SEXTANT-1246_SEXTANT-346_SEXTANT-1346_SEXTANT",
  "-2346_SEXTANT-12346_SEXTANT-56_SEXTANT-156_SEXTANT-256_SEXTANT-1256_SEXTANT-356_SEXTANT-1356_S",
  "EXTANT-2356_SEXTANT-12356_SEXTANT-456_SEXTANT-1456_SEXTANT-2456_SEXTANT-12456_SEXTANT-3456_SEX",
  "TANT-13456_SEXTANT-23456!l9lBb3eKl9mRlBw9l9cM,rY&yqmRlBw9l9cM,rY(lBw9l9cM;_rYb3eKyqmRlBw9yq,rY",
  "&l9mRlBw9yqcM,rY(lBw9yqcM(mRlBw9yqmRrY<(cMw9l9>(lB<(cMw9yq>(lB;(cMw9yq;_lBb3eKyqcMw9yqmR>(lB<(",
  "cMw9l9>(lB;(cMw9l9;(mRlBw9l9mR!yqrYb3eKl9mRlBw9l9cM,rY&yqmRlBw9l9cM,rY(lBw9l9cM;_lBb3eKyqmRlBw",
  "9yq,rY&l9mRlBw9yqcM,rY(lBw9yqcM(mRlBw9yqmRrY<(cMw9l9>(lB<(cMw9yq>(lB;(cMw9yq;_rYb3eKyqcMw9yqmR",
  ">(lB<(cMw9l9>(lB;(cMw9l9;(mRlBw9l9mR_aDrYaDl9xAwNq4b3>!lBaDl9aDrY>!yqaDlBaDl9>!lBaDyqaDrY;_xAo",
  "Zq3>!yq>!rY>!l9!yFoZfLBLOCK-2%BLOCK-3%BLOCK-4%BLOCK-5%BLOCK-6%BLOCK-7!jaoZfLBLOCK-2%BLOCK-3%BL",
  "OCK-4%BLOCK-5%BLOCK-6%BLOCK-7!lBaDl9oZfLb3=$yq?!rY=$l9?!yq!jaoZfLBLOCK-1358!yqoZq3b3;_wNfM<_gW",
  ";_wNq4;_s2fM;!rYoZq3;_wNfM<_gW;_wNq4;_s2fM!lBilmHs9=!rY=!yq=!l9<!jS=!yqilb3aDl9il$jSmHs9aDl9il",
  "b3~1FB94<!lBiljSmHs9aDrY!CHECKER BOARDgL=!jS;!iPja;!yqlBw9l9rY;_rYw9l9lB_aDl9xAilb3=!lBaDrY!yq",
  "lBxAmHs9=_rY>!l9=_lB!cbDRAWINGSlQeKyqcMw9mRlB+rY&mRlBw9l9cM=(rY=&yqcMw9mRlB=+rY&mRlBw9l9cMw9mR",
  "rY>*yq&yqcMw9mRlBaDmRrYw9l9cM=+rYaDmRlB,w9l9cMw9mRlB+lBw9l9cMw9mRrY&mRlBw9yqcMw9mRrYw9l9cM=(rY",
  "w9yqcMw9mRlB&eN%jazfyFu1!ARROWHEAD-SHAPEDqo!jScVmv!lBilRUNNINGmq=!rY!jSfqaZzfw7lG!lGaZaDyqaDl9",
  "oZfLb3]!r4=!fqaZaDrY/!ys!lBilg9<!rY!VOIDEDh7dQ!rYo2uBfg!nQeKdQ$mRrYw9l9cM$eN!y7iPsuzfsfdL!lBwD",
  "y7rYqpjG?!mR?!rY!nQuBq6mv!uRgJ$zfARMSrd$LEANINGlB%rY$zfDRESS!y7yoCHEVRON~1FBF0!SEGMENTEDeSz2$o",
  "Z$x8$wN$hh$gW$tZ$s2$fJ$of~E0001!LANGUAGE TAG~E0020!TAGus_glmv;_q7_oFtG;_ff;_pP_aB_aQ_lBpB;_rY_",
  "a8_qjtG_dr_jk_hquV_uo_eSz2$oZ$x8$wN$hh$gW$tZ$s2$fJ$of_dp_sV_lLtG;_gb;_h6_q6mv_dsba_lycBlMA&B&C",
  "&D&E&F&G&H&I&J&K&L&M&N&O&P&Q&R&S&T&U&V&W&X&Y&Z_lBuAcc_rzuo_rYuAcc_dbae_l7lS_h4ae_lyuglMA&B&C&D",
  "&E&F&G&H&I&J&K&L&M&N&O&P&Q&R&S&T&U&V&W&X&Y&Z_lBd1cc_yFlS_rYd1cc_w3!CANCEL TAG~E0100!yzSELECTOR",
  "-17_SELECTOR-18_SELECTOR-19_SELECTOR-20_SELECTOR-21_SELECTOR-22_SELECTOR-23_SELECTOR-24_SELECT",
  "OR-25_SELECTOR-26_SELECTOR-27_SELECTOR-28_SELECTOR-29_SELECTOR-30_SELECTOR-31_SELECTOR-32_SELE",
  "CTOR-33_SELECTOR-34_SELECTOR-35_SELECTOR-36_SELECTOR-37_SELECTOR-38_SELECTOR-39_SELECTOR-40_SE",
  "LECTOR-41_SELECTOR-42_SELECTOR-43_SELECTOR-44_SELECTOR-45_SELECTOR-46_SELECTOR-47_SELECTOR-48_",
  "SELECTOR-49_SELECTOR-50_SELECTOR-51_SELECTOR-52_SELECTOR-53_SELECTOR-54_SELECTOR-55_SELECTOR-5",
  "6_SELECTOR-57_SELECTOR-58_SELECTOR-59_SELECTOR-60_SELECTOR-61_SELECTOR-62_SELECTOR-63_SELECTOR",
  "-64_SELECTOR-65_SELECTOR-66_SELECTOR-67_SELECTOR-68_SELECTOR-69_SELECTOR-70_SELECTOR-71_SELECT",
  "OR-72_SELECTOR-73_SELECTOR-74_SELECTOR-75_SELECTOR-76_SELECTOR-77_SELECTOR-78_SELECTOR-79_SELE",
  "CTOR-80_SELECTOR-81_SELECTOR-82_SELECTOR-83_SELECTOR-84_SELECTOR-85_SELECTOR-86_SELECTOR-87_SE",
  "LECTOR-88_SELECTOR-89_SELECTOR-90_SELECTOR-91_SELECTOR-92_SELECTOR-93_SELECTOR-94_SELECTOR-95_",
  "SELECTOR-96_SELECTOR-97_SELECTOR-98_SELECTOR-99_SELECTOR-100_SELECTOR-101_SELECTOR-102_SELECTO",
  "R-103_SELECTOR-104_SELECTOR-105_SELECTOR-106_SELECTOR-107_SELECTOR-108_SELECTOR-109_SELECTOR-1",
  "10_SELECTOR-111_SELECTOR-112_SELECTOR-113_SELECTOR-114_SELECTOR-115_SELECTOR-116_SELECTOR-117_",
  "SELECTOR-118_SELECTOR-119_SELECTOR-120_SELECTOR-121_SELECTOR-122_SELECTOR-123_SELECTOR-124_SEL",
  "ECTOR-125_SELECTOR-126_SELECTOR-127_SELECTOR-128_SELECTOR-129_SELECTOR-130_SELECTOR-131_SELECT",
  "OR-132_SELECTOR-133_SELECTOR-134_SELECTOR-135_SELECTOR-136_SELECTOR-137_SELECTOR-138_SELECTOR-",
  "139_SELECTOR-140_SELECTOR-141_SELECTOR-142_SELECTOR-143_SELECTOR-144_SELECTOR-145_SELECTOR-146",
  "_SELECTOR-147_SELECTOR-148_SELECTOR-149_SELECTOR-150_SELECTOR-151_SELECTOR-152_SELECTOR-153_SE",
  "LECTOR-154_SELECTOR-155_SELECTOR-156_SELECTOR-157_SELECTOR-158_SELECTOR-159_SELECTOR-160_SELEC",
  "TOR-161_SELECTOR-162_SELECTOR-163_SELECTOR-164_SELECTOR-165_SELECTOR-166_SELECTOR-167_SELECTOR",
  "-168_SELECTOR-169_SELECTOR-170_SELECTOR-171_SELECTOR-172_SELECTOR-173_SELECTOR-174_SELECTOR-17",
  "5_SELECTOR-176_SELECTOR-177_SELECTOR-178_SELECTOR-179_SELECTOR-180_SELECTOR-181_SELECTOR-182_S",
  "ELECTOR-183_SELECTOR-184_SELECTOR-185_SELECTOR-186_SELECTOR-187_SELECTOR-188_SELECTOR-189_SELE",
  "CTOR-190_SELECTOR-191_SELECTOR-192_SELECTOR-193_SELECTOR-194_SELECTOR-195_SELECTOR-196_SELECTO",
  "R-197_SELECTOR-198_SELECTOR-199_SELECTOR-200_SELECTOR-201_SELECTOR-202_SELECTOR-203_SELECTOR-2",
  "04_SELECTOR-205_SELECTOR-206_SELECTOR-207_SELECTOR-208_SELECTOR-209_SELECTOR-210_SELECTOR-211_",
  "SELECTOR-212_SELECTOR-213_SELECTOR-214_SELECTOR-215_SELECTOR-216_SELECTOR-217_SELECTOR-218_SEL",
  "ECTOR-219_SELECTOR-220_SELECTOR-221_SELECTOR-222_SELECTOR-223_SELECTOR-224_SELECTOR-225_SELECT",
  "OR-226_SELECTOR-227_SELECTOR-228_SELECTOR-229_SELECTOR-230_SELECTOR-231_SELECTOR-232_SELECTOR-",
  "233_SELECTOR-234_SELECTOR-235_SELECTOR-236_SELECTOR-237_SELECTOR-238_SELECTOR-239_SELECTOR-240",
  "_SELECTOR-241_SELECTOR-242_SELECTOR-243_SELECTOR-244_SELECTOR-245_SELECTOR-246_SELECTOR-247_SE",
  "LECTOR-248_SELECTOR-249_SELECTOR-250_SELECTOR-251_SELECTOR-252_SELECTOR-253_SELECTOR-254_SELEC",
  "TOR-255_SELECTOR-256"]

end Taxonomy.Text.Names
