/-!
# Names of characters: symbols

The symbols of the basic plane, in the form that `Text.Names` reads.
-/

namespace Taxonomy.Text.Names

/-- The symbols of the basic plane, in rows. -/
def symbols : List String := [
  "~2000!fYq0;!fW!fYus;!fW;!THREE-PER-EM;!FOUR-PER-EM;!SIX-PER-EM;!gJ;!qU;!wC;!ij;!z2zb$NON-JOINE",
  "R$kb!lFmv;!r3!jj;!NON-BREAKING!gJek;!fY;!fW!jabu!fkyFlS;_l7!lBtLq7mv=!rY<!tLLOW-9<_i1<!lBfk=!r",
  "Y<!fkLOW-9<_i1!eb;!fk!co;!xA!oZfgLEADER<!x8!jafV!jlqm!lSsY;!pw!lFEMBEDDING;!r3!POPeZFORMATTING",
  "!lFOVERRIDE;!r3!nJoous!PER MILLEtG;_wdwK!qI;!fk;!xD;!rA;_fk;_xD!cE!tLlDaFq7mv=_r0;!REFERENCE;!",
  "fkgl!jQ!pk!UNDERTIE!cRTIE!cEjLqm!ASTERISM!jjco!hkub!lBuAcczfQUILL>!rY!fkq6mv;!q6gl;!glq6!TIRON",
  "IANtGET!rAPILCROWtG!bYlGco;_r4!l7a8!rAsV!diyn!x8ASTERISKS ALIGNEDyG!dsm0tG!SWUNGek!jTUNDERTIE!",
  "g6qUmv!wNfgqU!q2qI!hhfgqU<!gW<!x8!hhfgmv!fjdQ!TRICOLON!yFhhfi!mHmAus!zmkb!FUNCTION APPLICATION",
  "!INVISIBLEw5_sY_qj~2066!lFISOLATE;!r3;!gSSTRONG;!POPeZ!INHIBIT SYMMETRIC SWAPPING<!ACTIVATE!IN",
  "HIBITaTheSHAPING=!ACTIVATE!NATIONALeSSHAPES<!NOMINAL!vlz2_lyuglMI~2074_hh_gW_tZ_s2_fJ_of_qjtG_",
  "m0_gbtG_lBpB;_rY_lyuglMN!u9z2_oZ_x8_wN_hh_gW_tZ_s2_fJ_of_qjtG_m0_gbtG_lBpB;_rY~2090!lyu9uglMA&",
  "E&O&X&sG&H&K&L&M&N&P&S&T~20A0!EURO-CURRENCYtG;!dp;!CRUZEIRO;!FRENCH FRANC;!LIRA;!MILL;!NAIRA;!",
  "PESETA;!sl;!WON;!NEW SHEQEL;!DONG;!EURO;!KIP;!TUGRIK;!fr;!GERMAN PENNY;!PESO;!GUARANI;!AUSTRAL",
  ";!HRYVNIA;!CEDI;!LIVRE TOURNOIS;!SPESMILO;!TENGE;!INDIANsl;!TURKISH LIRA;!NORDICmv;!MANAT;!RUB",
  "LE;!LARI;!BITCOIN;!SOM~20D0!dqlBiFad<_rY_l4yFlSpj=_tv_aKaZad<_dh<_lB<_rY_r5pj<_dh<_aK_wNfiad<_",
  "hh_fZc8$uA$eN$c8bm_lBrYaZad_fZsH$KEYCAP$UPWARDqpxy_rzuopj;_fkyFu1_ANNUITYvw_xDUNDERDOT_y9chad_",
  "lGaZpj;_l4fkuo_r4iFzfbvfq>_lG_lBaZbH<_rY_a8ad~2100!ACCOUNToQ!ADDRESSEDw9wtSUBJECT!fmcBC!euCELS",
  "IUS!cMlSvw!CAREoQ!CADA UNA!EULER CONSTANT!SCRUPLE!euFAHRENHEIT!sIugG_cBH<!b0<!fm!PLANCK CONSTA",
  "NT$pfx8p1!sIcBI<!b0!sIcBL;_ug!L Bbuvw!fmcBN!NUMEROtG!upRECORDINGdJ!sIcBP<!fm$Q!sIcBR<!b0<!fm!P",
  "RESCRIPTION TAKE!RESPONSE!SERVICEmv!wctG;!TRADEmv!VERSICLE!fmcBZ!OUNCEtG;!OHM<!jT!b0cBZ!xUh7ug",
  "lMjU!KELVINtG;!ANGSTROM!sIcBB!b0cBC!ESTIMATEDvw!sIugE;_cB$F<!xU!sIcBM_ugO!arvw;!bM;!hS;!ed!jJu",
  "q!sbcBQ!FACSIMILEtG!fmugp1$hz;_cB$p1_nBvg!xUszcBG%L=!rA!xUszcBY!fmjYcBD;$ug%E%I%J!PROPERTYlS!x",
  "UaB!PERtG!AKTIESELSKAB!xUugF!vwhdsvuq!yPhkoZSEVENTH%NINTH%we%wD$x8wE$oZgH$x8FIFTHS;$wN;$hh$oZt",
  "3$gWSIXTHS$oZfL$wNfM;$gW;$s2!hkoHoZ;!r9oG$x8$wN$hh$gW$tZ$s2$fJ$of$wd$fU$xY$gI$oZjh;$gW$oZwK!ug",
  "r9oGoZ%x8%wN%hh%gW%tZ%s2%fJ%of%wd%fU%xY%gI%oZjh;%gW%oZwK!r9oGoZwKC D$gWwK;$wd$rAoZjh!lyuglMrAC",
  "!r9oGtZLATEhe;$gIEARLY%wK;$oZjh!yPhkz2wE!xUeSx8$wN~2190!lGaZ;!ys;!r4;!fq;!lBrY;!ynfo;!osy1;_fF",
  "<!ur;_y1!lGaZzfu1=!r4!lGyWaZ<!r4;!lGx8HEADED=!ys=!r4=!fq!lGaZzfvV=!r4!lGaZhmbu=!ys=!r4=!fq!ynf",
  "oaZzfbz!lGaZzfi8=!r4!lGaZzfl5=!r4!lBrYyWaZ$aZzfu1!fqz9aZ!ysaZzfw7lG&r4!fqaZzfw7lG&r4!r4aZzfdKf",
  "q!fqaZzfdKlG!aKxosTaZ=!dh!osy1aZw9l4bu;!lGaZw9bupfr4aZw9!aKo2c8aZ=!dh!lGiFzfbvys&fq!ysiFzfbvr4",
  "&lG!r4iFzfbvys&fq!fqiFzfbvr4&lG!r4aZpflGaZ;!ysaZlGoQfq;!lGaZpfr4_PAIREDa1<!ys<!r4<!fq!lGiFpfr4",
  "iF;!r4iFpflG!lGfkaZzfu1>!lBrY>!r4!lGfkaZ<!ys<!r4<!fq<!lBrY<!ynfo<!osy1<_fF=!ur<_y1;!lGxD<!r4;!",
  "lGuC<!r4!ysaZzffku1>!fq!lGelaZ<!ys<!r4<!fq!lGaZw9bu=!r4!lGy7aZ<!ys<!r4<!fq!ysy7aZhmbu%oXPEDEST",
  "AL(zfjabu;)yF$fkaZ&oXPEDESTAL!r4y7aZhmyT!osy1aZw9dK=!urfF!ynfoy7aZ!rYaZzfugc8!fqaZlGoQysaZ!wNr",
  "4a1!lGaZzfyFu1>!r4>!lBrY<!lGaZzffk?!r4?!lBrY!lGOPEN-HEADEDaZ<!r4<!lBrY!hdALL!COMPLEMENT!pEeP!T",
  "HERE EXISTS_fdouEXIST!fXs1!INCREMENT!nG!fSoQ<!ouaC<!ug!dEAS MEMBER<!fdoudC<!ugdE!f1oQPROOF!nBq",
  "K_dH_vg!m0tG;!MINUS-OR-PLUS!fgqj!e7ub!s1m0!a8o4;!r5;!co!uAROOT;!CUBE;!hj!PROPORTIONALw9!jI!rYa",
  "F;!;!mE;!uv!DIVIDES!fdoue3!pzw9<!ou!l2aD_o7!jR!yk!jO;!fk;!xD;!CONTOUR;!SURFACE;!VOLUME;!dh;_CO",
  "NTOUR<!aK!THEREFORE!BECAUSE!RATIO!qN!fgm0!EXCESS!GEOMETRICqN!i7!w3o4!rAw3!jTLAZY S!SINEyW!WREA",
  "THqK!ouw3;!m0!ASYMPTOTICALLYgaw9=!ou<!aS<_cqouACTUALLY=!nRaSoq<!au=!ou<!augao7!xDw3!ALLgaw9;!g",
  "e<!hH!DIFFERENCEbP!APPROACHESwtLIMIT!hHgaw9!aSgaw9o7wtjBoQ!jBoQo7aSgaw9!dpgb!gbdp!r5jDgaw9<_;!",
  "CORRESPONDS!ESTIMATES!EQUIANGULARw9!uOgb!exgaw9!gaw9BY DEFINITION!mEBY!QUESTIONEDgaw9<!ou;!jo<",
  "!ou;!STRICTLYge;!lLo7ga=!h6<!lLpf=!h6<!lLcqou>!h6!MUCHlL_h6!bP!ougew9_lL_h6!nRlLoqgaw9=_h6;!lL",
  "o7ge=!h6<!nRlLoq=_h6!lLo7h6!h6o7lL!nRlLoqh6_h6oqlL!qE!vd!qEo7gaw9=!vd;!qEo7ge=!vd!fdouPRECEDE$",
  "SUCCEED!vaoQ;!vm;!ouAva;$vm!vaoQo7gaw9>!vm<!nRAvaoQoq>$vm<!vaoQzfou?!vm!MULTISET_nu_yk!uAjBoQ;",
  "_o9_jBoQo7gaw9>_o9_CAP_CUP!c9qj_m0_w5_e7ub_fgo4;_r5;_a8_gb_ek!uBqj_m0_w5_fgo4!rYvS;!lB;!fo;!yn",
  "!ASSERTION!MODELS!TRUE!FORCES!xDyFburYxV<!fkyFbufk!fdouPROVE!ouTRUE!fdouFORCE!NEGATEDfkyFbufkr",
  "YxV!qEyhrr<!vd!oru4oQ!dEASoru4!oru4oQo7gaw9=!dEASoru4!o9oQ;!jB!ns!HERMITIAN CONJUGATE MATRIX!I",
  "NTERCALATE!XOR!NAND!oq!rYaFzfaV_xy!nBl2aD$o7_jR_yk!eNo4;!fg;!uO!e7w5!ca!lBorFACTORsWqK>!rY<!lB",
  "<!rY!rAw3gb!d1l2o7$aD!fkva_vm_jR_yk!qg!gaaDpzw9!lLzffg<!h6!yHMUCHlL$h6;!lLgaw9o7!h6gaw9o7lL>!%",
  "h6%qE%vd!fdouPRECEDEo7ga<$SUCCEED!ouuAjBoQo7gaw9>$o9<!uAjBoQo7ou?_o9;!lLcqouge>!h6>!qE>!vd!ouo",
  "ru4oQ!fdoudCASoru4!ouoru4oQo7gaw9!fdoudCASoru4o7ga!yFfV;!MIDLINEja;!ynrYeK=!fo!fSoQzfl4jau1<%y",
  "Fbubaf1oQ|!ug!fSoQzffgad%pg>!ug!fSoQzfyi%x8jau2!dEzfl4jau1<$yFbubaf1oQ^!ug!dEzfpg=!ug!ZovBAG M",
  "EMBERSHIP!DIAMETERtG!fRaZ!je!yna0;!fo!PROJECTIVE!PERSPECTIVE!yXlS!lBcK;!rY!lBg3;!rY!b9rYCROP;_",
  "lB;!xorY;_lB!rAoutG!uAma!aV!SEGMENT!SECTOR!wcRECORDER!qsjH!VIEWDATAuA!qhoQINTERESTtG;!xUou!WAT",
  "CH!jd!xolBdK;_rY;!b9lB;_rY!xoiljO<!b9!FROWN!uh!yna0bPx8jaby!OPTIONkJ!ERASEw9wtrY!XjDArkcb!kK!l",
  "DaFcc<!r0!ERASEw9wtlB!BENZENEr5!CYLINDRICITY!ALL AROUND-PROFILE!SYMMETRY!TOTAL RUNOUT!DIMENSIO",
  "N ORIGIN!CONICAL TAPER!SLOPE!COUNTERBORE!COUNTERSINK!APLhsvwI-BEAM%SQUISHq0%q0ga&e3&eN&ke&c8%c",
  "8uS&ke%ubbu;%bm%q0ub&bm&lL&h6%lGVANE;%r4%q0lGaZ;&r4%c8bm%fovSyi%exuS%q0focE&ex%fovSke%ysVANE%q",
  "0ysaZ%ynvSpg%DELuS%q0yncE&DEL%ynvSke%fqVANE%q0fqaZ%QUOTEyi;%ex;%eN;%ke;%c8%yntuke%QUOTEq0%c8uO",
  "%q0dp%ynvSeJ;%DEL;%uO;%ke;%c8%fotuuS<%lB%w3eJ;%h6%drbu%DELw3%ZILDE%uSw3%sVyi%q0ouga&q6%focEw3<",
  "%yn%jU%rD%oV%awyi;%f9;%jU;%oV%aw!oucVmv!rYaFzffqz9aZ!SHOULDEREDo2cb!bGvw!yFlSzfmRfg!jLvw;!CONT",
  "INUOUS UNDERLINE<!DISCONTINUOUS;!EMPHASIS;!du!y7uAzfcMyFlS!ENTERvw;!aAkJ;!HELM!c9jabuzfNOTCH_x",
  "yfo!cic8zfNORTHWESTaZ!UNDOvw;!MONOSTABLE;!HYSTERESIS;!OPEN-CIRCUIT-OUTPUT H-TYPE;_L-TYPE;!PASS",
  "IVE-PULL-DOWN-OUTPUT;!PASSIVE-PULL-UP-OUTPUT!eXd3vwhex8!SOFTWARE-FUNCTIONvw!APLhsvwq0!ersYkJvw",
  "!PREVIOUSpo;!NEXT!PRINTsHvw<!CLEAR!lBpByqi8$gn$l9i8;!rYpByq$gn$l9i8!lBuAccyqdK%gn%l9dK;!rYuAcc",
  "yq%gn%l9dK!lBd1ccyqi8%mRp2%l9i8!d1ccgn!rYd1ccyqi8%mRp2%l9i8!jOgn;!jalS!yqlBo7l9rYd1ccsM=_rYo7l",
  "9lB!vgxo_b9!xouAcc<!b9%pfxouAcc!q9vwb9!lByFcblS=!rY!jaSCAN LINE-1$LINE-3$LINE-7$LINE-9!DENTIST",
  "RYvwlQyFaDxorY;(b9&zfc8<%foaDja>%yn%yFzfxy<%foaDja>%yn%yFaDyW;%foaDjazf>%yn%foaDja<%yn%yFaDxol",
  "B;(b9!uAhc!ryvw;!EJECT!yFlSgn!METRICALcg_l4pftv_tvpfl4_l4pfx8tw_x8twpfl4%ka_TRISEME_wl_pO!fEGR",
  "OUND!FUSE!xopB;!b9!xod1cc<!b9;!xoxqtk=!b9!y7TRAPEZIUM!BENZENEr5zfc8!STRAIGHTNESS!FLATNESS!ACd3",
  "!ELECTRICALjR!erEXPONENTvw!bYr0fkxy<_lD<_yo<_fp_r0fkxyzfyFbu?_lD<_r0xyzffk!ALARMdg!STOPWATCH!T",
  "IMERdg!jdzfFLOWING SAND!bYmHlDxy;$r0;$yo;$fp!fkyFbu!bYuAhduV_c8hdRECORD!qzvw;_ON-OFF;_oX;_SLEE",
  "P;!OBSERVERgr!vwhdNULL$uPoQHEADING&wn<$f1&xr$ENQUIRY$af$bG$BACKSPACE$javR$lSFEED$yFvR$heFEED$C",
  "ARRIAGEry$SHIFTpd%jD$DATA LINK ESCAPE$DEVICEdFoZ&x8&wN&hh$nQaf$SYNCHRONOUS IDLE$f1oQxrb3$CANCE",
  "L$f1oQmH$vb$ESCAPE$gKsY;$GROUP;$RECORD;$yl$us$DELETE!BLANKvw!o2cb!vwhdNEWLINE$DELETEhex8<$vb~2",
  "440!OCRi8_CHAIR_FORK;_jT_bIBUCKLE_BOW TIE_ceBANKjp_AMOUNToQcV_ek_CUSTOMER ACCOUNToF_fkbm~2460!",
  "c9eSoZ$x8$wN$hh$gW$tZ$s2$fJ$of_oFwd$fU$xY$wF$hi$gG$t0$s3$fK$og$x1!pCeSoZ$x8$wN$hh$gW$tZ$s2$fJ$",
  "of_oFwd$fU$xY$wF$hi$gG$t0$s3$fK$og$x1!eSoZhquV<_x8<_wN<_hh<_gW<_tZ<_s2<_fJ<_of<!oFwd<_fU<_xY<_",
  "wF<_hi<_gG<_t0<_s3<_fK<_og<_x1!pClyuglMA&B&C&D&E&F&G&H&I&J&K&L&M&N&O&P&Q&R&S&T&U&V&W&X&Y&Z!c9l",
  "ycBlMA&B&C&D&E&F&G&H&I&J&K&L&M&N&O&P&Q&R&S&T&U&V&W&X&Y&Z$uglMA&B&C&D&E&F&G&H&I&J&K&L&M&N&O&P&Q",
  "&R&S&T&U&V&W&X&Y&Z_eSz2!nQc9oFfU%xY%wF%hi%gG%t0%s3%fK%og%x1!fkc9eSoZ%x8%wN%hh%gW%tZ%s2%fJ%of$o",
  "Fwd!nQc9eSz2!cbDRAWINGSlQja;$iP$lQyF;$iP$lQxDekja=$iP$lQxDekyF=$iP$lQq2ekja=$iP$lQq2ekyF=$iP$l",
  "QfoaDrY$folQaDrYiP%iPaDrYlQ$iPfoaDrY$lQfoaDlB$folQaDlBiP%iPaDlBlQ$iPfoaDlB$lQynaDrY$ynlQaDrYiP",
  "%iPaDrYlQ$iPynaDrY$lQynaDlB$ynlQaDlBiP%iPaDlBlQ$iPynaDlB$lQyFaDrY$yFlQaDrYiP$yniPaDrYfolQ;$foi",
  "PaDrYyn;$yFiPaDrY$folQaDrYyniP;$ynlQaDrYfo$iPyFaDrY$lQyFaDlB$yFlQaDlBiP$yniPaDlBfolQ;$foiPaDlB",
  "yn;$yFiPaDlB$folQaDlByniP;$ynlQaDlBfo$iPyFaDlB$lQfoaDja$lBiPaDrYfolQ<$rYiPaDlB$folQaDjaiP%iPaD",
  "jalQ$rYlQaDlBfoiP<$lBlQaDrY$iPfoaDja<$lQyn$lBiPaDrYynlQ<$rYiPaDlB$ynlQaDjaiP%iPaDjalQ$rYlQaDlB",
  "yniP<$lBlQaDrY$iPynaDja<$lQyF$lBiPaDrYyFlQ<$rYiPaDlB$yFlQaDjaiP$yniPaDfojalQ<$foiPaDyn<$yFiPaD",
  ";$lByniPaDrYfo<$rYyniPaDlB;$lBfoiPaDrYyn<$rYfoiPaDlB$folQaDynjaiP<$ynlQaDfo;$rYlQaDlByF<$lBlQa",
  "DrY$iPyFaDja;$lQfkek=$iP$lQfkekyF=$iP$fkja%yF$fotLaDrYfk%fkaDrYtL$fkfoaDrY$fotLaDlBfk%fkaDlBtL",
  "$fkfoaDlB$yntLaDrYfk%fkaDrYtL$fkynaDrY$yntLaDlBfk%fkaDlBtL$fkynaDlB$yFtLaDrYfk%fkaDrYtL$fkyFaD",
  "rY$yFtLaDlBfk%fkaDlBtL$fkyFaDlB$fotLaDjafk%fkaDjatL$fkfoaDja$yntLaDjafk%fkaDjatL$fkynaDja$yFtL",
  "aDjafk%fkaDjatL$fkyFaDja$lQaVfoaDrY)lB<&yn)rY%eKyqrYw9l9lB(lBw9l9rY&dQ%lB%yn%rY%fo$iPlB%yn%rY%",
  "fo$lQlBaDiPrY%ynaDiPfo$iPlBaDlQrY%ynaDlQfo!yqilb3;!l9oZfL;$q3;_wNfM;_il;_gWfM;_wNq4;_s2fM;!hq;",
  "!lBs2fM;_wNq4;_gWfM;_il;_wNfM;_oZq3;$fL;!rYil!lQs9;!mH;!DARK!yqoZfLb3=!rY!q1l9lB$rY_yqlB%aDl9l",
  "BaDl9rY;(&yqrYaDl9lB+rY;$%aDl9lB)aDl9rY!bYuA;!y7$zfsfdL$dDbYuguA!uAzfjagL;$yF;$ORTHOGONALdU;$y",
  "qlBw9l9rY;%rYw9l9lB;$eKdU!bYuguA<!y7!bYrk;!y7;!bYyF<!y7!bYPARALLELOGRAM;!y7!bYyoxy<!y7;!bYyoug",
  "=!y7;!bYr0<!y7;!bYr0ug=!y7!bYr0qo<!y7!bYfpxy<!y7;!bYfpug=!y7;!bYlD<!y7;!bYlDug=!y7!bYlDqo<!y7!",
  "bYeN;!y7$dDbYugeN!FISHEYE!ma!y7c8;!fj!c8zfyFgL!BULLSEYE!bYc8!c8zflBilbY<$rY<$l9<$yq;%rYq1<$ALL",
  "cqyqlB!lBilbYc8=!rY!jSco_y7c8=!yqil>!l9!yqlBq1CIRCULARaV=_rY>!l9=_lB!yqilc8<!l9!bYl9rYxy;$lB<_",
  "yq;$rY!y7co!uAzflBilbY<$rY<$yqlBeK=$l9rY!y7uAzfyFBISECTINGlS_yoxyzffg!yoxyzflBilbY<%rY!lwc8!y7",
  "uAzfyqlBq1<%l9;&rY<%yq;_c8zfyqlB<%l9;&rY<%yq!yqlBxy;_rY;!l9lB!y7mHuA<!bY;!y7mHug=!bY!l9rYxy!bY",
  "vhzfrg!dn!yg!uk!COMET!bYuO;!y7!lR!THUNDERSTORM!vh!a3NODE;!eE!CONJUNCTION!o6!bYwc;!y7!bscb$zfcV",
  "%X!su!ygzfrcDROPS!HOT BEVERAGE!y7SHOGIp2<!bY!SHAMROCK!rAsbg4iLco!bYlBqpjG<_rY<!y7lB<_yn<_rY<_f",
  "o!t9aDdR!CAUTIONtG;!RADIOACTIVE;!BIOHAZARD!CADUCEUS!ANKH!ORTHODOXdQ!cZrD!dQoQLORRAINE$JERUSALE",
  "M!uOaDdO!gzvw!ADI SHAKTI!ioaDSICKLE!pJvw!zNzw!TRIGRAMhdiO$LAKE$gR$wQ$zd$yV$nk$fE!y5oQDHARMA!y7",
  "hogx;_ui<!bY!y7vhzfrg!gSq3nj<!LAST!MERCURY!gFtG!fE!motG!JUPITER!SATURN!URANUS!NEPTUNE!PLUTO!AR",
  "IES!TAURUS!GEMINI!CANCER!LEO!VIRGO!LIBRA!SCORPIUS!SAGITTARIUS!CAPRICORN!AQUARIUS!PISCES!y7cYkS",
  "$q5$sa$bX$k3$pH!bYcYkS$q5$sa$bX$k3$pH_SPADE SUIT;!y7iL;_eN;!bYCLUB;!y7SPADE;!bYiL;_eN;!y7CLUB!",
  "HOT SPRINGS!q3ox;!fL!BEAMEDfLoz;_t1!MUSICgZtG;_NATURAL;_te!y1vMdQ<!fF!ymrmvw!rmvwhdTYPE-1 PLAS",
  "TICS;%TYPE-2;%TYPE-3;%TYPE-4;%TYPE-5;%TYPE-6;%TYPE-7%GENERIC MATERIALS!bYymrmvw;!RECYCLEDpv<!P",
  "ARTIALLY-RECYCLED!PERMANENTpvtG!y6vw!DIE FACE-1_FACE-2_FACE-3_FACE-4_FACE-5_FACE-6!y7c8zffgrY%",
  "x8fi!bYc8zfy7fgrY%x8y7fi!nehdzw$zN!DIGRAMhdGREATERzw$LESSERzN%zw$GREATERzN!y7gY;!bY!ioaDPICK!A",
  "NCHOR!dSSWORDS!uNoQAESCULAPIUS!SCALES!ALEMBIC!g6!GEAR!uNoQHERMES!ATOMvw!FLEUR-DE-LIS!pey7uO!wN",
  "LINES CONVERGINGrY%lB!WARNINGtG;!i0VOLTAGE;!fngF;_mo<!INTERLOCKEDgFaD;!moaDgF;_zfu1;%aDmoaDgF;",
  "!yFmozfu1>!ja!mHy7c8;_bY;_ugy7!MARRIAGEvw;!DIVORCE;!UNMARRIEDpF!COFFIN!FUNERAL URN!NEUTER!CERE",
  "S!PALLAS!JUNO!VESTA!CHIRON!bYnjLILITH!SEXTILE!SEMISEXTILE!QUINCUNX!SESQUIQUADRATE!SOCCERbq!BAS",
  "EBALL!uBkJ!y7DRAUGHTSmq$kS!bYDRAUGHTSmq$kS!ukzhSNOW!vhBEHINDdn!rc!bYuk!wQdnaDrc!xUy7SHOGIp2<_b",
  "Y!y7eNjDuA!dVLANES!DISABLEDcC!OPHIUCHUS!PICK!cCSLIDING!iSzfy7dQ!c9dVLANES!CHAINS!onf5!ayONE-WA",
  "YlBWAY TRAFFIC=!bYTWO-WAY>!y7!bYlBLANE MERGE=!y7!DRIVE SLOWtG!iPy7fpxy!lBdjf5!uBsu!gyeKjDy7c8j",
  "DbYuA!bYxH!RESTRICTEDlBENTRY-1$ENTRY-2!ASTRONOMICALvwhdURANUS!iPc8zfu1aDx8fiad!PENTAGRAM;!RIGH",
  "T-HANDED INTERLACED<!LEFT-HANDED;!jT!bYdQoXto!SHINTO SHRINE!CHURCH!CASTLE!HISTORIC SITE!GEARzh",
  "HUB_zfHANDLES!MAPvwhdLIGHTHOUSE!nk!ygoXGROUND!FOUNTAIN!gYjDHOLE!FERRY!SAILBOAT!uAhhdL!SKIER!jm",
  "SKATE!pTzfbq!TENT!j4BANKvw;!iJGRAVEYARD!FUEL PUMP!CUPoXbYuA!y7gYzfjamRbYSTRIPE!bYspSCISSORS;!y",
  "qBLADE;!bY;!l9BLADE;!y7_iPcVmv!wcl0tG!TAPE DRIVE!an!f6!rdFIST_iq;!VICTORY;!WRITING!l9rYPENCIL;",
  "!;!yqrY!y7NIB;!bY!cVmv<!iP!nuX<!iP;!bs<!iP!peh7dQ<!iP;!o2cM=!iP;!ly<!tay7<!pe;!MALTESE!uOoQDAV",
  "ID!hhv7a8;_br=!iP;!hhCLUB-SPOKED!bYhhqnuO=!y7!SPARKLES!uZpey7uO<!c9;!o2cMbY;!bYcMy7;!pebY=!iP;",
  "!qe;!tay7!iPa8;!o2cM;!fJSPOKED_qnbYuO;$qe;!tZqnbY<!fJqnRECTILINEAR?!iP<!xYqn!t0qna8;!v7<!o2cM<",
  "!iP!tZPETALLEDbYaDy7FLORETTE;!bY;!y7;!fJPETALLEDpebY!c9o2cMfJqnuO!iPv7qea8!SNOWFLAKE;!wUTRIFOL",
  "IATE;!iPCHEVRON!SPARKLE;!iP!bra8;!fJv7PROPELLER>!iP!dQmv!tay7c8!nQuBdQmv!l9rYDROP-SHADOWEDy7uA",
  ">!yq<!l9rYta>!yq!bYq6mvpb=!y7<_gl!bYeNm0y7X!iPglmvvw!lQyFbu<!mH<!iP_tLxUdrq7mvpb>$>_fkxU>$>_l7",
  "tL>$fk;!d5uQpwtG;!iPglmv=_iL_bYiL!sbiPbYiLco!g4iL!sbg4iLco!mHlBpBpb<_rY<_g1lB<$rY;_lDaFcc=_r0;",
  "!iPlDaFq7mv>_r0;_lDaFcc=_r0<!lQlBxqtk>_rY<!mHlBd1=_rY!DINGBATnQc9eSoZ&x8&wN&hh&gW&tZ&s2&fJ&of%",
  "oFwd_c9szeSoZ&x8&wN&hh&gW&tZ&s2&fJ&of%oFwd_nQc9szeSoZ(x8(wN(hh(gW(tZ(s2(fJ(of&oFwd!iPzar4aZ_qj",
  "tG;_m0;_e7_urfFaZ;_r4;_osfF;!DRAFTINGqmr4<!iPROUND-TIPPED<!xz=!iP=!el>!iP<!bY!THREE-Dxpr4a0<_B",
  "OTTOM-LIGHTED<!bY!iPbYd5fqaDr4aZ=%ys<!SQUATbY=!iPCONCAVE-POINTED<!r1y7=!lE=!bjta>!hn=!iPl9r2>_",
  "yq>!owl9!d1l5!owyqr2y7r4aZ=!c9iP<!WHITE-FEATHERED;!bZurfF;_r4;_osfF<!iPbZur;$r4;$osfF;!TEARDRO",
  "P-BARBEDr4<!iPTEARDROP-SHANKED<!WEDGE-TAILED=!iP<!OPEN-OUTLINED!fkd1l5!wNDIMENSIONALaF!y7xydDu",
  "gy7xy!pS!o2va_vm!lBS-SHAPED BAGew=!rY!o7zffgjM!rzuoqFva!vmqFuo!yFbuzfjau1!mAr6eK!l4e7!mAgyeK!u",
  "Bl2aD$o7!y7eNzfcNfg;!aDzf!fSoQo3ys!l9rYdKzffg=!yqlB!lBOUTER JOIN<!rY<!hq!lwynvS;_fo!lBaDrYfkxV",
  "%vS_ns!l4rYvS;_lB!ynvSzfc8ad!mae4BYjaRULE!y7CONCAVE-SIDEDeN%zflGwS;&r4;_uAzflG;%r4!mAlBy7uAcc=",
  "_rY;_lBaF<_rY<_lBfk=_rY;_lBy7xqtk>_rY_lBg1pB<_rY!ysq2aZ<!fq;!aKGAPPEDc8=!dh!rYaZzfc9qj!l4lGaZ;",
  "_r4;_lBrY;_lGfk<_r4<_lBrY_lGaZhmbu=_r4=_lGfk>_r4$uCaZ!BRAILLE PATTERN BLANK$DOTS-1$DOTS-2$DOTS",
  "-12$DOTS-3$DOTS-13$DOTS-23$DOTS-123$DOTS-4$DOTS-14$DOTS-24$DOTS-124$DOTS-34$DOTS-134$DOTS-234$",
  "DOTS-1234$DOTS-5$DOTS-15$DOTS-25$DOTS-125$DOTS-35$DOTS-135$DOTS-235$DOTS-1235$DOTS-45$DOTS-145",
  "$DOTS-245$DOTS-1245$DOTS-345$DOTS-1345$DOTS-2345$DOTS-12345$DOTS-6$DOTS-16$DOTS-26$DOTS-126$DO",
  "TS-36$DOTS-136$DOTS-236$DOTS-1236$DOTS-46$DOTS-146$DOTS-246$DOTS-1246$DOTS-346$DOTS-1346$DOTS-",
  "2346$DOTS-12346$DOTS-56$DOTS-156$DOTS-256$DOTS-1256$DOTS-356$DOTS-1356$DOTS-2356$DOTS-12356$DO",
  "TS-456$DOTS-1456$DOTS-2456$DOTS-12456$DOTS-3456$DOTS-13456$DOTS-23456$DOTS-123456$DOTS-7$DOTS-",
  "17$DOTS-27$DOTS-127$DOTS-37$DOTS-137$DOTS-237$DOTS-1237$DOTS-47$DOTS-147$DOTS-247$DOTS-1247$DO",
  "TS-347$DOTS-1347$DOTS-2347$DOTS-12347$DOTS-57$DOTS-157$DOTS-257$DOTS-1257$DOTS-357$DOTS-1357$D",
  "OTS-2357$DOTS-12357$DOTS-457$DOTS-1457$DOTS-2457$DOTS-12457$DOTS-3457$DOTS-13457$DOTS-23457$DO",
  "TS-123457$DOTS-67$DOTS-167$DOTS-267$DOTS-1267$DOTS-367$DOTS-1367$DOTS-2367$DOTS-12367$DOTS-467",
  "$DOTS-1467$DOTS-2467$DOTS-12467$DOTS-3467$DOTS-13467$DOTS-23467$DOTS-123467$DOTS-567$DOTS-1567",
  "$DOTS-2567$DOTS-12567$DOTS-3567$DOTS-13567$DOTS-23567$DOTS-123567$DOTS-4567$DOTS-14567$DOTS-24",
  "567$DOTS-124567$DOTS-34567$DOTS-134567$DOTS-234567$DOTS-1234567$DOTS-8$DOTS-18$DOTS-28$DOTS-12",
  "8$DOTS-38$DOTS-138$DOTS-238$DOTS-1238$DOTS-48$DOTS-148$DOTS-248$DOTS-1248$DOTS-348$DOTS-1348$D",
  "OTS-2348$DOTS-12348$DOTS-58$DOTS-158$DOTS-258$DOTS-1258$DOTS-358$DOTS-1358$DOTS-2358$DOTS-1235",
  "8$DOTS-458$DOTS-1458$DOTS-2458$DOTS-12458$DOTS-3458$DOTS-13458$DOTS-23458$DOTS-123458$DOTS-68$",
  "DOTS-168$DOTS-268$DOTS-1268$DOTS-368$DOTS-1368$DOTS-2368$DOTS-12368$DOTS-468$DOTS-1468$DOTS-24",
  "68$DOTS-12468$DOTS-3468$DOTS-13468$DOTS-23468$DOTS-123468$DOTS-568$DOTS-1568$DOTS-2568$DOTS-12",
  "568$DOTS-3568$DOTS-13568$DOTS-23568$DOTS-123568$DOTS-4568$DOTS-14568$DOTS-24568$DOTS-124568$DO",
  "TS-34568$DOTS-134568$DOTS-234568$DOTS-1234568$DOTS-78$DOTS-178$DOTS-278$DOTS-1278$DOTS-378$DOT",
  "S-1378$DOTS-2378$DOTS-12378$DOTS-478$DOTS-1478$DOTS-2478$DOTS-12478$DOTS-3478$DOTS-13478$DOTS-",
  "23478$DOTS-123478$DOTS-578$DOTS-1578$DOTS-2578$DOTS-12578$DOTS-3578$DOTS-13578$DOTS-23578$DOTS",
  "-123578$DOTS-4578$DOTS-14578$DOTS-24578$DOTS-124578$DOTS-34578$DOTS-134578$DOTS-234578$DOTS-12",
  "34578$DOTS-678$DOTS-1678$DOTS-2678$DOTS-12678$DOTS-3678$DOTS-13678$DOTS-23678$DOTS-123678$DOTS",
  "-4678$DOTS-14678$DOTS-24678$DOTS-124678$DOTS-34678$DOTS-134678$DOTS-234678$DOTS-1234678$DOTS-5",
  "678$DOTS-15678$DOTS-25678$DOTS-125678$DOTS-35678$DOTS-135678$DOTS-235678$DOTS-1235678$DOTS-456",
  "78$DOTS-145678$DOTS-245678$DOTS-1245678$DOTS-345678$DOTS-1345678$DOTS-2345678$DOTS-12345678!r4",
  "yaaZzfyFu1<&fk<!lGfkaZzf?!r4?!lBrY!r4yaaZhmbu=!lGfk>!r4!fqaZzfjau1>!ys_xDaZ<!fq;!lGfkek=!r4<!l",
  "GxD=!r4=_ya_aZzffjuQ!ysaZw9bu=!fq!r4aZzfvVzfyFu1<(fk_yaaZzfvV(zfyFu1<)fk!lGARROW-TAIL;!r4;!lGf",
  "k<!r4!lGaZw9bYeN>!r4=!lGaZhmbu/!r4!osy1aDurfFaZ;_fFaDury1_y1aZzfi8=_fF>!ur=_y1!osy1aZaDosfFaZ<",
  "_fFaZaDur;!urfFaZaDury1<_y1aZaDos!r6eKdVgyeK;!gyeKdVr6!urfFaZdVosfFaZ<!osfFaZdVur<!gyeKdVos<!r",
  "6eKdVur;!osfFaZdVosy1;_y1aZdVosfF!yWaZqpDIRECTLYrY!aZqpr4wwd6ys(fq$fqwwd6lG(r4!RIGHT-SIDEaVdha",
  "Z;!LEFT-SIDEaVaK=!xo=!b9!xoaVdhaZzfm0$aKaZzfqj!l9rYsUdhaZ;_lBsUaK;!aKdjc8=!dh;!r4aZadtvlG;!lGa",
  "Zadtvr4;!tvr4aZadlG!r4aZzfqjbH>!lG!r4aZwOX!lBrYaZwOugc8<!ysyaaZhm!lBbvynrYbvfoiF;$forYbvyn;!yn",
  "bvrYfobvlB;$lBfobvrY;!lBbvynrYbvyn;!ynbvrYfobvrY;!lBbvforYbvfo;!ynbvlBfobvlB!lGiFzfbvynw9bu/!r",
  "4<!ysiFzfbvrY/!fq<!lGiFzfbvfo/!r4<!ysiFzfbvlB/!fq;!lGiFzfbvynhm/!r4<!ysiFzfbvrY/!fq<!lGiFzfbvf",
  "o/!r4<!ysiFzfbvlB/!fq!lGiFzfbvynadlGiFzfbvfo!ysiFzfbvlBbLysiFzfbvrY!r4iFzfbvynadr4iFzfbvfo!fqi",
  "FzfbvlBbLfqiFzfbvrY!lGiFzfbvynadr4iFzfbvyn&foadr4iFzfbvfo!r4iFzfbvynadlGiFzfbvyn&foadlGiFzfbvf",
  "o!lGiFzfbvynadl4ek<&fobH<!r4iFzfbvynad<&fobH!ysiFzfbvlBbLfqiFzfbvrY>!fqiFzfbvlBbLys!rYfkaZzfsf",
  "iI!gbtGadr4aZ=!w3o4!lGaZadw3o4>!r4%augaw9!lLadlGaZ!lGaZwOlL!h6adr4aZ=!va!lGaZwOva!vmadlGaZ!lBg",
  "TvV<!rY<!yn<!fo!xDyFbuew!ZovSPOT$TYPEdp!lBy7d1cc=!rY!lBy7pB<!rY!ZovlBjBcc<$rY;$lBBINDING<$rY!l",
  "BuAcczfyi>!rY!lBuAcczfwSjDxodK;!rYuAcczfwSjDb9[!lB;!rYuAcczfwSjDxo!lBaFcczffg>!rY!lBaVlLcc;!rY",
  "aVh6=!fklB;_rYaVlL;!lBbYxqtk>!rY!fjFENCE!yFz9lS!mEaFo3lB!rYaFyyzfuA!mErYaFzffg!aFzfSjM!agaF!uv",
  "aFo3lB%yn!xUaF;!rA!aFzfyi=!rA!oOaFo3yn%fo!mEaFzfo2ARM ENDINGjDaZqpynaDrY:lB,foaDrY:lB,rYaDyn<,",
  "lB,rYaDfo<,lB!rAfXs1!fXs1zfpg%ugc8ad;%rYaZ<%lB!c8zfjabu;!c9yF_pz_rzuo_pS!c8e4BYjabuaDxoile4BYy",
  "Fbu_zfSUPERIMPOSED X!c9ANTICLOCKWISE-ROTATEDe7tG!ynaZwOc8!c9y7co;__lL_h6!c8zfugc8w9wtrY=$x8jau",
  "2!uBr6eKub<_gy_a8_ugc8_uA!x8kaSQUARES!xyzffgad$yi!SjDxy!xyzfs0bab9!rYxyadlBxy!lBxybLyFbu!yFbub",
  "LrYxy!cazflBilbY<$rY!bYca!w5zflBilbY<$rY!y7jd;!bY!lBzcFENCE<!rY<!lBfk=!rY!INCOMPLETEjI;!TIEpf!",
  "jINEGATEDzfyFbu!DOUBLE-ENDEDns!uAzfCONTOURED OUTLINE!INCREASES AS!SHUFFLEqK!gbtGaDuapz(zfw3ad!",
  "jow9aDuapz!GLEICH STARK!THERMODYNAMIC!fpxyzflBilbY<%rY!bYeNzffoaZ_ma!y7c8zffoaZ>!bY!ERROR-BARR",
  "EDy7uA;_bY_y7eN;_bY_y7c8;_bY!RULE-DELAYED!rzuoo4!uozfpg!rzuozfjau1!bSuo;_rz!fkqj;!xD!lDd5aFcc=",
  "!r0!w6!MINY!nBc9fgo4;$qj;$w5_yko4zffg&qj_uAjRo4;$yk;!x8l2aD;$o7;!nBw5!MODULOx8vf!vgzfjO!q2jOo4",
  "!FINITE PARTjO!jOzffku1_AVERAGEzfub!CIRCULATION FUNCTION!aKjP!lSjPzfrlPATH AROUND POLE=%sU;$ou",
  "INCLUDINGwt!jOAROUND Aqmo4;!QUATERNIONjO!jOzflGaZzfi8$w5tG$jR$yk$pg$yi!JOIN!lwlBxyo4!ZovSCHEMA",
  "du%PIPING%PROJECTION!qjtGzfugc8ad;%dbae;%w3%fgbH;%w3%u9x8%bYxy!m0tGzfdrad%fgbH%gyfi;%r6!qjtGjD",
  "lBilc8<%rY!VECTORo7dQqK!nutGzffgad%yi!sWqKzfb9dj!SMASHqK!nutGjDlBilc8<%rY!c9nutGzfdbae!nutGjDf",
  "kc8!c9e7tG!qjtGjDxy=!m0=!nu!INTERIORqK<!RIGHTHAND!ZovRELATIONALdu!AMALGAMATIONo7dH!jRzffg!ykzf",
  "m0tG$pg<!jR$l2aD!ykzfl2o7_adjR!jRadyk!ykadbuadjR!jRadbuadyk;!ykbLaDkazf!jRbLaDkazfjR!djykzfs0<",
  "_jR!fkuAjR$yk!djykzfs0aDSMASHqK!l2aDzffgad=_o7!fkl2aD$o7!x8INTERSECTINGl2aD%o7;!SLOPINGlw$aD;!",
  "l2o7pil2_aDzfmRuQ=_o7_aDzfjaek=_o7_aDzffkpg%yi;%fk;!ugyDzf!l2o7zffkpg&yi!ZovDOMAIN ANTIRESTRIC",
  "TION;$re!gbtGzffgbH!jozffgad!xDjabuzffkyFu1<&xD!w3o4zffgad%r6fi!tJm0tJ!CONGRUENTzffgad!gbzfa8!",
  "augaw9zfdbae!aSgao7gaw9!gbtGadqjtG;!qjtGadgb!gbtGadw3o4!fkdpga!x8CONSECUTIVEgbSIGNS=!wN!gbtGzf",
  "x8fiadaDx8fibH!gezfhhfiad!lLzfc8jM=!h6!lLzfq6mvad>!h6!lLo7uagaw9>!h6!lLo7uagaw9zffgjM[!h6!lLo7",
  "uagaw9zffgad[!h6!lLo7uagaw9zffgadrY!h6o7uagaw9zffgadlB!lLo7aR<!h6!lLaDtMougaw9?!h6!lLaDouaR=!h",
  "6!lLadflgaadh6!h6adflgaadlL!lLadtJo7ga>!h6!lLadtJadh6!h6adtJadlL!lLadh6adflga=!h6adlL;!lLaduag",
  "aadh6adua=!h6aduagaadlL!uagaw9o7lL&h6&lLzffgjM=&h6!flgaw9o7lL&h6_uagaw9o7lL(h6!tJo7lL$h6_adlLa",
  "dgbtG=$h6!fkNESTEDlL$h6$lLzfyi!h6pilL;_bL!lLdjBYd4=!h6!lLdjBYd4aduaga/!h6!SMALLERws;!LARGER!SM",
  "ALLERwso7gaw9>!LARGER!gbtGzfBUMPYad!qEadtMgbtG>!vd!qEadtMougaw9?!vd!qEadgbtG=!vd!qEadougaw9>!v",
  "d<!qEadau>!vd=!qEadou?!vd!fkqE_vd!vazffg<!vm!vazfqjtGbH>!vm<!vazfnu>!vm!vaoQo7gaw9zffgad[!vm!v",
  "aoQadgbtG>!vm!vaoQadw3o4>!vm!vaoQadaugaw9?!vm<!vaoQadou?!vm!uAlBo2cbo4=_rY!djva_vm_vao7gaw9=_v",
  "m!vaadvm!vmadva<!va!vmadvm_bLva;$aDkaBYekzf!fSoQo3fq!qgzfv9xo!TRANSVERSALjR!FORKING!NONFORKING",
  "!tvlBvS;_fo;_yn!pSzfS!yFbuxDrYxV;!fkyFbulB<!yFbufk?!fk!l4ekhmlBMEMBERoQfkyF!tvfovSzfpg_ynvSzfy",
  "i%adtvfovS<!fk;_yn_u1outG>!rA!fdoue3zfrANEGATIONub!yFlSzfc8ad&bH=!fovS!pzzfjau1$w3o4!xDyFbuBIN",
  "ARYrr%zfjau1_dpo4_NESTEDlL$h6!flualLo7gaw9=$h6!xDuoBINARYrr!lwxDyFbuo4;!fkuo!y7yFbu=!nB!osfFy7",
  "aZ<_y1<!urfF<_y1<!lBrY;!lGbY<!ys<!fq<!osfF<_y1<!urfF<_y1<!lBrY<!ynfo!r4aZzfw7fq&ys!lGaZzfw7fq&",
  "ys!uAzfxoilbY<$b9<$yqrYeK=$l9lB<!eNzflB<$rY<$xo<$b9!fjuA;!bYlw<!y7;!bYyHug=!y7!bYpN;!y7_HEXAGO",
  "N;!bY<!ja!bYlwc8_mHeN<!y7!bYmHma<!y7!bYugeN$ma<!y7!bYjaELLIPSE<!y7;!bYyF<!y7!lBaZzfugc8!wNlGa1",
  "!lBaZzfc9qj!l4lGuCaZ!lGyaaZzfyFu1<&fk%hmbu$xDekaZ_aZzffjuQ%vVzfyFu1<(fk_yaaZzfvV(zfyFu1<)fk_aZ",
  "wOX!yWaZqpDIRECTLYlB!gbtGadlGaZ=!rzw3o4!lGaZadrzaugaw9!r4aZwOh6%vm!lGq2aZ<!r4;!rzw3o4adr4!r4aZ",
  "adrzaugaw9!w3o4adlGaZ!lGaZadaugaw9%rzw3o4?!r4!fqxzz9aZ;!tvuaos;_blur!y7mHuO;!bYug<!y7!bYr0pN<!",
  "y7!iPlwc8_OVALzfOVALjM;_c8zfc8$_c9su!uaosaZzfi9iI!bluraZzfi9vV;!uaosaZzfja>!blur!bKaZqpfqwwosf",
  "F[!tv!lGxzaZ<!ys<!r4<!fq<!lBrY<!ynfo<!osy1<_fF=!ur<_y1;!lGxzel=!ys=!r4=!fq;!dhxzo2c8>!aK!lGxza",
  "Zw9bu>!ys>!r4>!fq~2B76>!osy1>_fF?!ur>_y1!lGxzaZzffkjau1/!ys/!r4/!fq!javPkJ<!yF!lGxzaZpfr4xzaZ<",
  "!ysxzaZlGoQfq<!r4xzaZpflG<!fqxzaZlGoQys!lGxzPAIREDa1=!ys=!r4=!fq!lGbYc9y7aZ>!ys>!r4>!fq;!aKxzr",
  "YU-SHAPED<$b9<$lB<$xo!rylB_rY!NEWLINElB_rY!hhdKa1CIRCLINGaK!r4bYaZ~2B97!vwhdTYPE A ELECTRONICS",
  "!THREE-DxplGgda0<_RIGHT-LIGHTEDys<_xpr4<_LEFT-LIGHTEDfq<!bYlG<_ys<_r4<_fq!fqxzaZzfl4w7lG)r4!ys",
  "xzaZzfl4w7lG)r4!lGxzaZzfl4w7ys/!r4!lGxzaZzfl4w7fq/!r4!bYd5fqaDlGaZ;&r4;$ysaDlG;&r4;$lGaDys=$r4",
  ";$lGaDfq=$r4!rFaZfolB%rY$ynlB%rY$lByn;$rY$lBfo;$rY!ysy7aZhmbuzfjabu!yna0jDArkcb!piy7SQUARES;$a",
  "DbY<_!bscbzflQX;!c9;_b5!bYuAcN;_eN!xUbYpN!jabYOCTAGON<!_mHyoxycN<$fp<$lD<$r0!NEPTUNEhex8!xoilb",
  "Yc8=!b9!lQhhqnbYCUSP?!sb;!y7hhqn>!sb!uAqsjH!UNCERTAINTYtG!GROUPmv!PLUTOhex8$wN$hh$gW!TRANSPLUT",
  "O!PROSERPINA!ASTRAEA!HYGIEA!PHOLUS!NESSUS!y7njSELENA!bYeNoXdQ!TRUElQnjARTA!CUPIDO!HADES!ZEUS!K",
  "RONOS!APOLLON!ADMETOS!VULCANUS!POSEIDON!lBilbYuO=!rY!uOzflBilbY<$rY!lGyaaZzfxyARROWHEADS?!ys?!",
  "r4?!fq!ERISheoZ$x8!SEDNA!RUSSIANa9vwVIGINTILE%NOVILE%QUINTILE%BINOVILE%SENTAGON%TREDECILE!gbtG",
  "zfjIbH!UNITEDvw;!SEPARATED;!fn;!PASSED!rArYaF!HELLSCHREIBER PAUSEvw!hWcBlMAZU%BUKY%VEDE%hV%fb%",
  "zJ%z8%fB%z1%IZHE;%jK%I%e8%KAKO%lV%nA%nL%ONU%qq%r7%uf%xX%UKU%hl%HERU%OTU%pI%SHTA%xM%c5%s5%zF%zE",
  "%YATI%SPIDERYig%zS%ugzT(zfvV%zO%jVugzT;%bS<%jV%gV%j0%SHTAPIC%xFA%LATINATEnA%CAUDATEc5_uglMAZU%",
  "BUKY%VEDE%hV%fb%zJ%z8%fB%z1%IZHE;%jK%I%e8%KAKO%lV%nA%nL%ONU%qq%r7%uf%xX%UKU%hl%HERU%OTU%pI%SHT",
  "A%xM%c5%s5%zF%zE%YATI%SPIDERYig%zS%ugzT(zfvV%zO%jVugzT;%bS<%jV%gV%j0%SHTAPIC%xFA%LATINATEnA%CA",
  "UDATEc5!lycBlMLzffkbu?_ug_cBlMLzfmRw3%Pzfu1%RzfvV_uglMAzfu1;%TzfeK_cBlMHzfeD>_ug<_cBlMK>_ug<_c",
  "BlMZ>_ug_cBlMaw%Mzfi8%xUA&aw_uglMVzfrYi8;_cBlMWzf>_ug%Vzfd0_cBlMilH=_ug%TAILLESSpX%EzfNOTCH%xU",
  "RzfvV%Ozfl7r5jM_lMugcBxUE_u9uglMJ!m3lMcBV!lycBlMSzfvsvV=%Z!dIcBlMALFA<_ug_cBlMVIDA<_ug_cBlMhz<",
  "_ug_cBlMDALDA<_ug_cBlMEIE<_ug_cBlMSOU<_ug_cBlMZATA<_ug_cBlMHATE<_ug_cBlMTHETHE<_ug_cBlMIAUDA<_",
  "ug_cBlMKAPA<_ug_cBlMLAULA<_ug_cBlMmN<_ug_cBlMn4<_ug_cBlMKSI<_ug_cBlMO<_ug_cBlMp1<_ug_cBlMr8<_u",
  "g_cBlMSIMA<_ug_cBlMv3<_ug_cBlMUA<_ug_cBlMFI<_ug_cBlMKHI<_ug_cBlMqQ<_ug_cBlMOOU<_ug_cBlMeLar=_u",
  "g_cBlMoTdIam>_ug_cBlMdXEIE=_ug_cBlMeLKAPA=_ug_cBlMeLn4=_ug;_cBlMdX=_ug_cBlMoTdIOOU>_ug_cBlMsx<",
  "_ug_cBlMdSSHEI=_ug;_cBlMoTdI>_ug_cBlMoTdIgg>_ug_cBlMAKHMIMIC KHEI=_ug_cBlMeLHORI=_ug;_cBlMoTdI",
  ">_ug_cBlMoTdIig>_ug;_cBlML-SHAPED=_ug_cBlMoTdIHEI>_ug_cBlMoTdIiG>_ug_cBlMoTdIhC>_ug_cBlMoTdIDJ",
  "A>_ug_cBlMoTdItq>_ug;_cBlMoToD>_ug_cBlMoToDNGI>_ug_cBlMoToDoL>_ug_cBlMoToDWAU>_ug_vwkj$mNr8;$p",
  "1$STAUROS$v3r8;$KHI$tqSIMA_cBlMdXSHEI=_ug_cBlMdXhC=_ug_dqn4ad$SPIRITUS ASPER%LENIS_cBlMBOHAIRI",
  "C KHEI=_ug~2CF9_oToDhquV%eXq6mv<%INDIRECT%yEe5_hkoZil_hquV_MORPHOLOGICALe5!hIuglMaC%BAN%hA%DON",
  "%fY%VIN%ZEN%TAN%jD%kl%LAS%mq%NAR%oX%PAR%z5%ra%SAN%v0%UN%pV%kO%hN%QAR%tr%c2%cw%JIL%CIL%cQ%XAN%j",
  "8%HAE%iH%HIE%y0%iD%HOE~2D27%YN~2D2D%AEN~2D30!TIFINAGHlMzt$YAB$YABH$YAG$YAGHH$BERBER ACADEMY YA",
  "J;$$YAD$YADH$YADD$YADDH$YEY$YAF$YAK;$xS$YAKHH$YAH;$BERBER ACADEMY;$xS$YAHH$zu$YAKH;$xS$YAQ;$xS",
  "$zL$YAZH;$AHAGGAR;$xS$YAL$YAM$YAN$xSYAGN%zw$YAP$zS$YAR$YARR$YAGH;$xS;$AYER$YAS$YASS$YASH$zx$YA",
  "TH$YACH$YATT$YAV$YAW$YAY$YAZ;$TAWELLEMET$YAZZ$zy$zO~2D6F_m3lMLABIALIZATIONmv;_sY~2D7F_dzkb!gkv",
  "vLOA$MOA$ROA$SOA$SHOA$BOA$TOA$COA$NOA$NYOA$hYOA$ZOA$DOA$DDOA$JOA$THOA$CHOA$PHOA$POA$GGWA$GGWI$",
  "GGWEE$GGWE~2DA0$uD$SSU$SSI$SSAA$SSEE$SSE$SSO~2DA8$CCA$CCU$CCI$CCAA$CCEE$CCE$CCO~2DB0$ZZA$ZZU$Z",
  "ZI$ZZAA$ZZEE$ZZE$ZZO~2DB8$CCHA$CCHU$CCHI$CCHAA$CCHEE$CCHE$CCHO~2DC0$QYA$QYU$QYI$QYAA$QYEE$QYE$",
  "QYO~2DC8$KYA$KYU$KYI$KYAA$lm$KYE$KYO~2DD0$XYA$XYU$XYI$XYAA$XYEE$XYE$XYO~2DD8$GYA$GYU$GYI$GYAA$",
  "GYEE$GYE$GYO~2DE0!dqd7lMbC%yB%hO%eq%z6%z0%kg%fQ%fW%fY%O%pI%ER%ES%v6%ig%xJ%cU%s5%tf%gV%ES-TE%A%",
  "jw%DJERV%ngUK%zx%zS%jWA%lUzT;%bS<%jW!rYaFvcmy<$fj!lBvccc<!rY<!lBfj=!rY!rdINTERPOLATIONmy<_fj;!",
  "fjxs!lBxscc<!rY!rduA!lBrdOMISSIONcc=!rY!EDITORIAL CORONIS!PARAGRAPHOS;!FORKED<!rA!HYPODIASTOLE",
  "!fjOBELOS!fqANCORA;!ys!fjr0aF!fkoOjj!jTjQ!psce!jjzfeJ!w3zfr5ad!lBl7PARAPHRASEcc=!rY!w3zffgad%b",
  "H!lByFbuzfQUILL>!rY!xolBilcc<_rY<!b9lB<_rY;!lBtEU=!rY!lBfkpB<!rY!x8fipfoZfgqU;!oZfgpfx8fi;!uBh",
  "hfg!gWfgmv;!rAq6!yFw3!r5qm!zmsYmRfg!xUdr!rdfg_dr!xUsV!ebzflBGUARD;$rY!xUeb!xoilsMtG!TWO-EMek;!",
  "THREE-EM!STENOGRAPHIChquV!yFtZfi!zcyFlS!CAPITULUM!fkjj!rAdr!fkLOW-REVERSED-9q7mv!ekzflBUPTURN!",
  "fkvpmv!jTl7kC%zfkCad!l7kC$zffg!fkSTACKEDdr!fjuo!xDeb!MEDIEVALdr!PARAGRAPHUSmv;!PUNCTUS ELEVATU",
  "S!CORNISHyEe5!dQPATTYzfrYCROSSBAR;%lB!TIRONIANtGcBET!MEDIEVALglmv;_q6!lBuAcczfu1>!rY;!lBuAcczf",
  "fk?!rY!xoillBpB;$rY;!b9illB;$rY!oOjj~2E80!CJKq9rt$df$sLoZ%x8%wN$pT$cb$vQ$k2oZ%x8$e6$SEAL$ugoZ%",
  "x8$LAMEoZ%x8%wN%hh$uj$wM$SNOUToZ%x8$iLoZ%x8$iq$RAP~2E9B$CHOKE$vh$nj$DEATH$MOTHER$CIVILIAN$yVoZ",
  "%x8$gR$PAWoZ%x8$tKilxtTRUNK$COW$fe$JADE$BOLToQdl$gr$uxoZ%x8$bt$SILK;$ct$NEToZ%x8%wN%hh$MESH$tj",
  "$RAM$EWE$oT$cjoZ%x8$mF$MORTAR$GRASSoZ%x8%wN$wT$dm$y1oZ%x8$ctsN$tKjb;$$ctuu%tk$hc$ctCART$tKyS$y",
  "SoZ%x8$CITY$cth0$l4oZ%x8$ctl4%GATE$MOUNDoZ%x8$rc$b4$ctTANNED LEATHER%lA%zd%FLY$EAToZ%x8%wN$ctE",
  "AT$iI$ctjc$b6$hP$ctgT%bV%st$tKy4%zB$ctFROG$j1EVEN;$ct$j1xn;$ct$j1fs;$ct$xW;$j1;$ct~2F00!KANGXI",
  "q9oZ$lS$fg$ub$sL$i8$x8$LID$mq$LEGS$ENTER$fJ$focb$dM$jm$vQ$o2cb$k2$qz$WRAP$uy$rYo2cb$HIDINGf0$w",
  "d$e6$SEAL$df$PRIVATE$AGAIN$nm$f0$fE$SCHOLAR$GO%SLOWLY$EVENING$bS$zj$c1$ROOF$INCH$ug$LAME$CORPS",
  "E$SPROUT$nk$RIVER$WORK$ONESELF$TURBAN$DRY$tvwM$fjdf$l4STRIDE$x8iB$SHOOT$BOW$SNOUT$BRISTLE$STEP",
  "$iL$HALBERD$DOOR$iq$ce$RAP$sI$DIPPER$AXE$uA$ou$vh$SAY$nj$xt$LACK$uV$DEATH$WEAPON$e9ou$COMPARE$",
  "FUR$CLAN$STEAM$yV$gR$CLAW$FATHER$fkX$ilxtTRUNK$SLICE$FANG$COW$fe$PROFOUND$JADE$MELON$TILE$SWEE",
  "T$LIFE$USE$FIELD$BOLToQdl$SICKNESS$fjTENT$y7$SKIN$e2$gr$SPEAR$aZ$uU$ux$TRACK$GRAIN$CAVE$STAND$",
  "bt$rG$SILK$JAR$NET$tj$gC$oT$aD$PLOW$fD$cj$mF$MINISTER$SELF$ARRIVE$MORTAR$xl$OPPOSE$BOAT$STOPPI",
  "NG$COLOR$GRASS$wT$INSECT$BLOOD$ySf0$dm$y1$sN$jb$uu$VALLEY$BEAN$PIG$BADGER$tk$rn$RUN$hc$BODY$CA",
  "RT$BITTER$MORNING$yS$CITY$ze$DISTINGUISH$VILLAGE$h0$l4$GATE$MOUND$SLAVE$tvTAILEDbV$rc$b4$WRONG",
  "$gx$LEATHER;$TANNED$LEEK$up$lA$zd$FLY$EAT$iI$FRAGRANT$jc$b6$vX$ij$FIGHT$SACRIFICIALze$CAULDRON",
  "$hP$gT$bV$st$DEER$y4$HEMP$zB$MILLET$bY$EMBROIDERY$FROG$TRIPOD$ft$RAT$ot$EVEN$xn$fs$xW$FLUTE~2F",
  "F0!jvDESCRIPTIONcRlBw9rY%adw9bH%lBw9mRaDrY%adw9mRaDbH%hqSURROUND%SURROUNDhmad(bH(lB;(yq)rY(l9l",
  "B%ph"]

end Taxonomy.Text.Names
