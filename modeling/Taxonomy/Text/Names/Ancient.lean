/-!
# Names of characters: ancient

The scripts of the supplementary plane, in the form that `Text.Names` reads.
-/

namespace Taxonomy.Text.Names

/-- The scripts of the supplementary plane, in rows. -/
def ancient : List String := [
  "~10000!LINEAR BvvB008 A%B038 E%B028 I%B061 O%B010 U%B001d8%B045eq%B007eI%B014e9%B051fu%B057j2%",
  "B046 JE~1000D%B036 JO%B065 JU%B077kg%B044kD%B067kR%B070k9%B081li%B080me%B013mC%B073mN%B015m1%B",
  "023nr%B006nD%B024nP%B030n4%B052on%B055oC%B003pn%B072pI%B039p1%B011qk%B050qT%B016qW%B078 QE%B02",
  "1 QI%B032 QO~10028%B060q8%B027ri%B053rE%B002r8%B026sj%B031sm%B009sJ%B041tB%B012ul%B058u3%B059v",
  "N%B004v6%B037wR%B005w9%B069xR%B054yR%B075y0%B040y8%B042zi~1003C%B017zU%B074z0~1003F%B020 ZO%B0",
  "25 A2%B043 A3%B085bd%B071 DWE%B090 DWO%B048 NWA%B029 PU2%B062 PTE%B076 RA2%B033 RA3%B068 RO2%B",
  "066 TA2%B087 TWE%B091x8~10050$vwB018%B019%B022%B034%B047%B049%B056%B063%B064%B079%B082%B083%B0",
  "86%B089~10080$jqB100mq%B102zj%B104 DEER%B105 EQUID%B105F MARE%B105M STALLION%B106F EWE%B106M R",
  "AM%B107F SHE-GOAT%B107M HE-GOAT%B108F SOW%B108M BOAR%B109F COW%B109M BULL%B120y4%B121 BARLEY%B",
  "122 OLIVE%B123 SPICE%B125 CYPERUS$neB127 KAPO%B128 KANAKO$jqB130 OIL%B131ze%B132$neB133 AREPA%",
  "B135 MERI$jqB140 BRONZE%B141h0%B142%B145 WOOL%B146%B150%B151jb%B152%B153%B154$neB156 TURO2$jqB",
  "157%B158%B159dl%B160%B161%B162 GARMENT%B163 ARMOUR%B164%B165%B166%B167%B168%B169%B170%B171%B17",
  "2%B173ni%B174%B176xt%B177%B178%B179%B180%B181%B182%B183%B184%B185%B189%B190%B191iS%B220 FOOTST",
  "OOL%B225 BATHTUB%B230 SPEAR%B231aZ%B232%B233 SWORD%B234%B236%B240 WHEELEDcS;%B241%B242cSFRAME%",
  "B243y5%B245%B246$neB247 DIPTE$jqB248%B249%B251%B252%B253%B254 DART%B255%B256%B257%B258%B259%VE",
  "SSEL B155&B200&B201&B202&B203&B204&B205&B206&B207&B208&B209&B210&B211&B212&B213&B214&B215&B216",
  "&B217&B218&B219&B221&B222&B226&B227&B228&B229&B250&B305~10100!AEGEANzmsYlS%fg_cVmv~10107_oFoZ$",
  "x8$wN$hh$gW$tZ$s2$fJ$of$wd$x1$wG$hf$gI$t4$s4$fO$oh$oZjh;$x8;$wN;$hh;$gW;$tZ;$s2;$fJ;$of$oZwK;$",
  "x8;$wN;$hh;$gW;$tZ;$s2;$fJ;$of;$wd;$x1;$wG;$hf;$gI;$t4;$s4;$fO;$oh~10137_WEIGHTbzyl$gSSUBUNIT;",
  "$sL;$wD;$hj;_DRYmDgS=_LIQUID;_mDsL;$wD!h7ACROPHONIC ATTICoZq3&il&fr%gW%gI%gWjh&wK;%gI%gWTALENT",
  "S;%wd;%gI;%oZjh<%gW;%oZwK<%gW&STATERS;%wd;%gI;%oZjh<%gW;%oZwK<%wd<%gI%wdMNAS$HERAEUMoZPLETHRON",
  "$wyoZ;$iU$f7x8;$wy$CYRENAICx8DRACHMAS<$f7$xEgW%wd&ayhe$iUwd;$MESSENIAN;$wy%wG$xEgI&ayhe$iUgI;$",
  "wy%oZjh;%wN;$f7gW<$xE<$wy<$CARYSTIAN<$NAXIAN$wyoZwK;%gW$DELPHICgWMNAS;$STRATIANgI_oZiltG&ayhe_",
  "x8wEtG;_wNq4;_YEAR;_TALENT;_fr;_OBOL;_x8OBOLS<_wN<_hh<_gW;_METRETES;_KYATHOSbz;_LITRA;_OUNKIA;",
  "_XESTES;_ARTABE;_AROURA;_GRAMMA;_TRYBLIONbz;_z2;_oZq3;_SINUSOID;_INDICTION;!NOMISMA~10190;!r9S",
  "EXTANS;_UNCIA;_SEMUNCIA;_SEXTULA<_DIMIDIA;_SILIQUA;_DENARIUS;_QUINARIUS;_SESTERTIUS;_DUPONDIUS",
  ";_AS;_CENTURIAL!ASCIAvw~101A0!h7vwv3rD~101D0!PHAISTOSe1tGpK%PLUMEDiI;%TATTOOED%CAPTIVE%c1%zj%i",
  "S%GAUNTLET%TIARA%aZ%BOW%to%CLUB%MANACLES%MATTOCK%SAW%LID%b7%cGPLANE%DOLIUM%COMB%SLING%COLUMN%B",
  "EEHIVE%SHIP%jb%HIDE%BULLSlH%cI%RAM%EAGLE%DOVE%TUNNY%bD%PLANExt%VINE%PAPYRUS%ROSETTE%LILY%OXbi%",
  "FLUTE%GRATER%STRAINER%ugAXE%yXBAND%dqoOu1~10280!LYCIANlMA$E$B$BH$G$D$I$W$Z$TH$J$K$Q$L$M$N$MM$N",
  "N$U$P$KK$R$S$T$TT$aC$fY$H$X~102A0!CARIANlMA$P2$D$L$UUU$R$LD$A2$Q$B$M$O$D2$T$SH$SH2$S$C-18$U$NN",
  "$X$N$TT2$P$SS$I$E$UUUU$K$K2$ND$yv$G$G2$ST$ST2$nW$jA$C-39$TT$UUU2$sg$MB$MB2$MB3$MB4$LD2$E2$UUU3",
  "~102E0!dIEPACTwLmv$eSoZ%x8%wN%hh%gW%tZ%s2%fJ%of$oFwd%x1%wG%hf%gI%t4%s4%fO%oh%oZjh;%x8;%wN;%hh;",
  "%gW;%tZ;%s2;%fJ;%of~10300!oTjYlMA%bC%kD%eq%E%yB%z0%iH%wt%I%kg%fQ%fW%fY%gg%O%pI%tg%li%ER%ES%v6%",
  "U%EKS%PHE%KHE%EF%ERS%cU%jA%yv%ESS$oGoZ%gW%wd%gI~1032D$lMzy%NORTHERNxJ;%SOUTHERN!GOTHIClMAHSA$B",
  "AIRKAN$GIBA$DAGS$AIHVUS$QAIRTHRA$IUJA$HAGL$THIUTH$EIS$KUSMA$LAGUS$MANNA$NAUTHS$JER$URUS$PAIRTH",
  "RA$oh$RAIDA$SAUIL$TEIWS$WINJA$FAIHU$IGGWS$HWAIR$OTHAL$ofjh~10350!oTPERMIClMaC%cp%GAI%DOI%E%ZHO",
  "I%DZHOI%ZATA%DZITA%I%KOKE%LEI%MENOE%NENOE%VOOI%PEEI%REI%SII%vU%U%CHERY%SHOOI%SHCHOOI%YRY%zF%O%",
  "o1%EF%ig%TSIU%VER%YER%zE%zx%jw%zS%zt%IA!dqoTPERMIClMaC&DOI&ZATA&NENOE&SII~10380!UGARITIClMALPA",
  "$bN$GAMLA$kL$ex$i5$zi$z3$HOTA$wi$zP$ki$tr$lt$mJ$DHAL$oI$ZU$SAMKA$am$qT$SADE$QOPA$RASHA$THANNA$",
  "hM$w9$I$U$SSU~1039F_zme5!oTPERSIANtGA%I%U%kg%li%ht%id%zq%cu%j2%JI%vN%xR%d8%eI%fu%wo%pn%bg%gw%n",
  "D%oC%me%mN%nr%zt%yw%VI%q8%sj%ln%sm%zU%s5%uD%ig~103C8%AURAMAZDAA%AURAMAZDAA-2%AURAMAZDAAHA%XSHA",
  "AYATHIYA%DAHYAAUSH%DAHYAAUSH-2%BAGA%BUUMISH$zme5$oFoZ%x8%wd%x1%jh~10400!DESERETcBlMl4I&E&A&AH&",
  "O&o1%tvI&E&A&AH&O&o1%AY%OW%WU%zz%H%pL%bD%v9%et%cW%j5%KAY%GAY%EF%yD%gj%wu%ES%ZEE%gg%z7%ER%fQ%fW",
  "%fY%f2%OI%EW_uglMl4I&E&A&AH&O&o1%tvI&E&A&AH&O&o1%AY%OW%WU%zz%H%pL%bD%v9%et%cW%j5%KAY%GAY%EF%yD",
  "%gj%wu%ES%ZEE%gg%z7%ER%fQ%fW%fY%f2%OI%EW!SHAVIANlMPEEP$TOT$KICK$gD$THIGH$ul$SURE$CHURCH$YEA$HU",
  "NG$BIB$DEAD$GAG$VOW$THEY$ZOO$mD$JUDGE$WOE$HA-HA$LOLL$MIME$IF$EGG$a4$ADO$oX$WOOL$pd$AH$ROAR$oI$",
  "EAT$AGE$jm$yn$OAK$OOZE$OIL$AWE$ARE$o7$AIR$ERR$ARRAY$fD$IAN$YEW!OSMANYAlMar$bg$vN$j2$zq$kL$DEEL",
  "$q8$sm$SHIIN$eH$CAYN$ht$gw$QAAF$KAAF$LAAN$MIIN$NUUN$yY$ig$zt$A$E$I$O$U$aa$fH$o1~104A0_eSz2$oZ$",
  "x8$wN$hh$gW$tZ$s2$fJ$of~104B0!OSAGEcBlMA%al%am%AH%BRA%cP%EHCHA%E%EIN%ig%HYA%I%kg%EHKA%KYA%ln%m",
  "e%nD%O%OIN%pn%EHPA%sm%s5%vN%EHTA%xI%EHTSA%xK%eH%U%yR%kL%hL%zU%z4~104D8_uglMA%al%am%AH%BRA%cP%E",
  "HCHA%E%EIN%ig%HYA%I%kg%EHKA%KYA%ln%me%nD%O%OIN%pn%EHPA%sm%s5%vN%EHTA%xI%EHTSA%xK%eH%U%yR%kL%hL",
  "%zU%z4~10500!ELBASANlMA$bC$CE$cU$eq$NDE$DHE$EI$E$FE$GE$GJE$iH$I$JE$kD$lz$LLE$mC$nP$nD$oj$O$pI$",
  "QE$ri$RRE$sJ$tg$v6$wt$U$yB$XE$Y$z0$z6$hO$GHAMMA$KHE~10530!CAUCASIAN ALBANIANlMALT%bM%GIM%DAT%E",
  "B%ZARL%EYN%ZHIL%TAS%cP%YOWD%z4%IRB%s5%LAN%INYA%XEYN%DYAN%cC%JHOX%KAR%LYIT%HEYT%QAY%AOR%CHOY%cZ",
  "%CYAY%MAQ%QAR%NOWC%DZYAY%SHAK%JAYN%oX%TYAY%FAM%DZAY%CHAT%PEN%GHEYS%RAT%SEYK%VEYZ%TIWR%SHOY%IWN",
  "%CYAW%CAYN%YAYD%PIWR%KIW~1056F$CITATIONmv!VITHKUQIcBlMA%BBE%bC%CE%cU%eq%DHE%EI%E%FE%ht~1057C%i",
  "g%iW%I%IJE%JE%kg%ln%lX%mC%nP%oj%O%pI%qW%ri~1058C%sJ%tg%v6%wt%U%yB%XE~10594%Y%z0~10597_uglMA%BB",
  "E%bC%CE%cU%eq%DHE%EI%E%FE%ht~105A3%ig%iW%I%IJE%JE%kg%ln%lX%mC%nP%oj%O%pI%qW%ri~105B3%sJ%tg%v6%",
  "wt%U%yB%XE~105BB%Y%z0~10600!LINEAR AtGAB001%AB002%AB003%AB004%AB005%AB006%AB007%AB008%AB009%AB",
  "010%AB011%AB013%AB016%AB017%AB020%AB021%AB021F%AB021M%AB022%AB022F%AB022M%AB023%AB023M%AB024%A",
  "B026%AB027%AB028%A028B%AB029%AB030%AB031%AB034%AB037%AB038%AB039%AB040%AB041%AB044%AB045%AB046",
  "%AB047%AB048%AB049%AB050%AB051%AB053%AB054%AB055%AB056%AB057%AB058%AB059%AB060%AB061%AB065%AB0",
  "66%AB067%AB069%AB070%AB073%AB074%AB076%AB077%AB078%AB079%AB080%AB081%AB082%AB085%AB086%AB087%A",
  "100-102%AB118%AB120%A120B%AB122%AB123%AB131A%AB131B%A131C%AB164%AB171%AB180%AB188%AB191%A301%A",
  "302%A303%A304%A305%A306%A307%A308%A309A%A309B%A309C%A310%A311%A312%A313A%A313B%A313C%A314%A315",
  "%A316%A317%A318%A319%A320%A321%A322%A323%A324%A325%A326%A327%A328%A329%A330%A331%A332%A333%A33",
  "4%A335%A336%A337%A338%A339%A340%A341%A342%A343%A344%A345%A346%A347%A348%A349%A350%A351%A352%A3",
  "53%A354%A355%A356%A357%A358%A359%A360%A361%A362%A363%A364%A365%A366%A367%A368%A369%A370%A371%A",
  "400-VAS%A401-VAS%A402-VAS%A403-VAS%A404-VAS%A405-VAS%A406-VAS%A407-VAS%A408-VAS%A409-VAS%A410-",
  "VAS%A411-VAS%A412-VAS%A413-VAS%A414-VAS%A415-VAS%A416-VAS%A417-VAS%A418-VAS%A501%A502%A503%A50",
  "4%A505%A506%A508%A509%A510%A511%A512%A513%A515%A516%A520%A521%A523%A524%A525%A526%A527%A528%A5",
  "29%A530%A531%A532%A534%A535%A536%A537%A538%A539%A540%A541%A542%A545%A547%A548%A549%A550%A551%A",
  "552%A553%A554%A555%A556%A557%A559%A563%A564%A565%A566%A568%A569%A570%A571%A572%A573%A574%A575%",
  "A576%A577%A578%A579%A580%A581%A582%A583%A584%A585%A586%A587%A588%A589%A591%A592%A594%A595%A596",
  "%A598%A600%A601%A602%A603%A604%A606%A608%A609%A610%A611%A612%A613%A614%A615%A616%A617%A618%A61",
  "9%A620%A621%A622%A623%A624%A626%A627%A628%A629%A634%A637%A638%A640%A642%A643%A644%A645%A646%A6",
  "48%A649%A651%A652%A653%A654%A655%A656%A657%A658%A659%A660%A661%A662%A663%A664~10740%A701 A%A70",
  "2 B%A703 D%A704 E%A705 F%A706 H%A707 J%A708 K%A709 L%A709-2 L2%A709-3 L3%A709-4 L4%A709-6 L6%A",
  "710 W%A711 X%A712 Y%A713oV%A714 ABB%A715 BB%A717 DD%A726 EYYY%A732 JE~10760%A800%A801%A802%A80",
  "3%A804%A805%A806%A807~10780!m3lMugcBaa$vlxAdp<%il$ugai%cBB%Bzfi8~10787%DZeU(zfrxi8)d0%eGeU%Dzf",
  "vV(i8)aDvV%rAE;%djrAo2%FENGeU%RAMSjb%cBG%Gzfi8=%cB%Hzfu1%cBH%iTzfi8;%fhJzfu1aD%LSeU;%LZ%LzfbI=",
  "%cB;%Lzfrxi8aD%LEZH&zfrxi8%xUY(zfbI%Ozfu1%cBoP%djoV%Q%xURzfl4lH+aDrxi8%RzfvV(gU%cBR%TCeUzfd0%T",
  "SeU(zfrxi8%wgeU%Tzfrxi8;%VzfrY~107B2%cBY$hYuVzfu1>$rA$bTde;$eA;$LATERAL;$ALVEOLAR$rxdezfrxi8$u",
  "gSzfd0~10800!CYPRIOTvvA$E$I$O$U$j2~10808$JO~1080A$kg$kD$kR$k9$li$ln$lz$lO$lZ$mb$me$mC$mN$m1$nr",
  "$nD$nP$n4$on$oC$pn$pI$p1$qk$qT$q8$ri$rE$r8$sj$sm$sJ$tB$ul$u3$vN$v6$wR$w9$xR$yR$y0$y8$zi~10837$",
  "zq$XE~1083C$zU~1083F$ZO!IMPERIAL ARAMAIClMas%bO%hS%ee%iH%yY%zZ%iV%wk%zQ%kn%lv%mJ%oI%sw%bf%pI%s",
  "o%qZ%rv%tr%v4~10857$sMtG$oFoZ%x8%wN%wd%x1%oZjh&wK;%wd!PALMYRENElMas$bO$hS$ee$iH$yY$zZ$iV$wk$zQ",
  "$kn$lv$mJ$gNoI;$$sw$bf$pI$so$qZ$rv$tr$v4_lDFLEURON;_r0_oFoZ$x8$wN$hh$gW$wd$x1!NABATAEANlMgNas;",
  "$$gNbO;$$hS$ee$gNiH;$$yY$zZ$iV$wk$gNzQ;$$gNkn;$$gNlv;$$gNmJ;$$gNoI;$$sw$bf$pI$so$qZ$rv$gNtr;$$",
  "v4~108A7_oFoZ$x8$wN$hh<_CRUCIFORM_oFgW$wd$x1$oZjh~108E0!HATRANlMas$bO$hS$DALETH-RESH$iH$yY$ZAY",
  "N$iV$wk$zQ$kn$lv$mJ$oI$sw$AYN$pI$so$qZ~108F4$tr$v4~108FB_oFoZ$gW$wd$x1$oZjh!PHOENICIANlMALF$bM",
  "$GAML$DELT$iH$WAU$ZAI$HET$wi$zP$ki$LAMD$mJ$oI$SEMK$am$pI$SADE$QOF$ROSH$tr$v3_oFoZ$wd$x1$oZjh$x",
  "8$wN~1091F_zmsY!LYDIANlMA$B$G$D$E$V$I$Y$K$L$M$N$O$R$SS$T$U$F$Q$S$TT$aC$fY$LY$NN$C~1093F_xAmv~1",
  "0980!MEROITIC HIEROGLYPHIClMA%E%I%O%zt%yR%bg%BA-2%pn%me%nD%NA-2%nP%NE-2%q8%RA-2%ln%kL%iW%sm%SA",
  "-2%sJ%kg%qW%vN%TA-2%v6%TE-2%w9%d8$vwVIDJ%VIDJ-2_CURSIVElMA%E%I%O%zt%yR%bg%pn%me%nD%nP%q8%ln%kL",
  "%iW%sm;%aW%sJ%kg%qW%vN%v6%w9%d8~109BC$hkfUTWELFTHS%oZil$l3RMT%IMN$oFoZ%x8%wN%hh%gW%tZ%s2%fJ%of",
  "%wd%x1%wG%hf%gI%t4%s4~109D2%oZjh;%x8;%wN;%hh;%gW;%tZ;%s2;%fJ;%of%oZwK;%x8;%wN;%hh;%gW;%tZ;%s2;",
  "%fJ;%of;%wd;%x1;%wG;%hf;%gI;%t4;%s4;%fO;%oh;%oZjh<%x8<%wN<%hh<%gW<%tZ<%s2<%fJ<%of$hkoZTWELFTH%",
  "x8TWELFTHS;%wN;%hh;%gW;%tZ;%s2;%fJ;%of;%wd!KHAROSHTHIlMA_yNtGI%U%yKR~10A05%E%O~10A0C$lImv_tGfk",
  "r5bH$aM$yJ_lMkg$kL$ht$hL~10A15$cu$cP$j2~10A19$oJ$xN$xO$en$ep$ol$vN$wo$d8$eH$nD$pn$pU$bg$bQ$me$",
  "zt$q8$ln$yw$s5$uD$sm$zU$ig$KKA$TTTHA$TTTA$VHA~10A38_tGbuad$CAUDA$fgbH~10A3F_yI_eSoZ$x8$wN$hh_o",
  "Fwd$x1$oZjh%wK_hkoZil~10A50_qUfg$ugc8;$$dObu$MANGALAM$l6$eh;$fk$LINES~10A60!oTurARABIANlMiH&lv",
  "&iV&mJ&qZ&yY&tr&rv&bO&v4&SAT&kn&oI&KHETH&so&sw&FE&ar&AYN&DHADHE&hS&ee&GHAYN&wk&ZAYN&DHALETH&zQ",
  "&THAW&THETH%oFoZ&gI%NUMERICjH_osARABIANlMiR&ls&ii&mI&qX&yY&ES-2&rq&bF&wa&ES-1&ki&op&kM&sn&ES-3",
  "&gE&ar&am&d9&GEEM&ec&hM&vT&zW&wq&zA&wv&zV%oFoZ&wd&x1~10AC0!MANICHAEANlMas$bO$BHETH$hS$GHIMEL$e",
  "e$iH$yY_tGyc_lMzZ$ZHAYIN$JAYIN$JHAYIN$iV$wk$zQ$kn$XAPH$KHAPH$lv$DHAMEDH$THAMEDH$mJ$oI$sw$bf$AA",
  "YIN$pI$FE$so$qZ$XOPH$QHOPH$rv$tr$SSHIN$v4_abmvad%bH~10AEB_oFoZ$gW$wd$x1$oZjh_qUuO$FLEURON$fkfg",
  "zgfg=$%$x8fi$lSgM~10B00!AVESTANlMA$aa$AO$AAO$aC$AAN$ai$AEE$E$fH$O$o1$I$jA$U$yv$kD$XE$XYE$XVE$G",
  "E$GGE$hO$CE$JE$v6$wt$eq$DHE$TTE$pI$FE$bC$BHE$NGE$NGYE$NGVE$nP$NYE$NNE$mC$HME$YYE$zy$yB$ri$lz$s",
  "J$z0$tg$z6$SHYE$SSHE$iH~10B39_abmv!w6x8fipfoZfgqU/!ug/!lw;_oZfgpfx8fi;_x8RINGSpfoZr5;_oZr5pfx8",
  "RINGS!INSCRIPTIONAL PARTHIANlMas%bO%hS%ee%iH%yY%zZ%iV%wk%zQ%kn%lv%mJ%oI%sw%bf%pI%so%qZ%rv%tr%v",
  "4~10B58$oFoZ%x8%wN%hh%wd%x1%oZjh&wK_PAHLAVIlMas%bO%hS%ee%iH%yZ%zZ%iV%wk%zQ%kn%lv%MEM-QOPH%oI%s",
  "w%pI%so%tr%v4~10B78$oFoZ%x8%wN%hh%wd%x1%oZjh&wK!PSALTER PAHLAVIlMas%bO%hS%ee%iH%yZ%zZ%iV%zQ%kn",
  "%lv%MEM-QOPH%oI%sw%pI%so%tr%v4~10B99$sMmv<$xU$hhfizfdQ(fg~10BA9$oFoZ%x8%wN%hh%wd%x1%oZjh~10C00",
  "!oTTURKIClMpaA;%zC&ai%paI;%zC&E%paO&oP;%zC%paAB;%zC%paAEB;%zC%paAG;%zC%paAEG;%zC%paAD;%zC%paAE",
  "D&EZ;%zC%paAY;%zC%paAEY;%zC%paAEK;%zC%paOEK;%zC%paAL;%zC%paAEL&ELT&fW&aC&AEN;%zC%paENT;%zC%paE",
  "NC;%zC%paENY;%zC&aE%paf2%zCAENG%paEP&OP&IC&EC;%zC%paAQ;%zC%paIQ;%zC%paOQ;%zC%paAR;%zC%paAER&AS",
  "&AES&a4;%zC%pagg;%zC%paba;%zC%paAET;%zC%paOT&BASH~10C80_HUNGARIANcBlMA&aa&EB&AMB&EC&ENC&ECS&ED",
  "&aD&E;&di&fH&EF&EG&EGY&EH&I&jA&EJ&EK&AK&UNK&fQ&ELY&fW&fY&ENY&O&o1&odoP;&sk&OEE&EP&EMP&ER;&tv&E",
  "S&ESZ&ET&ENT&ETY&fG&U&yv&odye;&sk&EV&EZ&EZS&f3tG&US~10CC0$uglMA&aa&EB&AMB&EC&ENC&ECS&ED&aD&E;&",
  "di&fH&EF&EG&EGY&EH&I&jA&EJ&EK&AK&UNK&fQ&ELY&fW&fY&ENY&O&o1&odoP;&sk&OEE&EP&EMP&ER;&tv&ES&ESZ&E",
  "T&ENT&ETY&fG&U&yv&odye;&sk&EV&EZ&EZS&f3tG&US~10CFA$oFoZ%gW%wd%gI%oZjh&wK!HANIFI ROHINGYAlMA%bg",
  "%pn%vN%xN%j2%cu%ig%kL%gw%d8%en%q8%sh%zU%sm%s5%kg%ht%ln%me%nD%yR;%KINNA%zt;%KINNA%nX%oJ%yw$yNA%",
  "I%U%E%O$mvSAKIN%nDKHONNA$tGHARBAHAY%TAHALA%TANA%TASSI~10D30$eSz2%oZ%x8%wN%hh%gW%tZ%s2%fJ%of~10",
  "E60!RUMIeSoZ$x8$wN$hh$gW$tZ$s2$fJ$of_oFwd$x1$wG$hf$gI$t4$s4$fO$oh$oZjh;$x8;$wN;$hh;$gW;$tZ;$s2",
  ";$fJ;$of_hkoZil%q3%wD$x8wE~10E80!YEZIDIlMELIF$bC$pI$PHE$wt$sJ$CIM$CHIM$CHHIM$iW$zq$ec$ZAL$q8$r",
  "C$zU$j2$SIN$tr$sn$d9$vN$z0$EYN$XHEYN$gw$yw%ayhe$qX$ki$KHAF$hw$ls$MIM$oI$UM$yY$OW$EW$HAY$YOT$ET",
  "~10EAB_dqipmv;$mh;_jl~10EB0_lMlszffgad;$YOTzfdb~10F00!oTunlMas;%gN%bO;%gN%hS%iH;%gN%yY%zZ%iV%z",
  "Q%kn%lv%mJ%oI;%gN(zfyFvV%sw%bf;%ay%pI%so;%gN(zfyFvV%RESH-AYIN-DALETH%tr%v4;%gN(zfyFvV$oFoZ%x8%",
  "wN%hh%gW%wd%x1%wG%oZjh$hkoZil$lPAYIN-DALETH~10F30!unlMas$bO$hS$iH$yY$zZ$iV$zQ$kn$lv$mJ$oI$sw$b",
  "f$pI$so$RESH-AYIN$tr$v4$FETH$LESH_jFtr_dqfgbH;$x8fi$fgad;$x8fi;$d4%bH$i8ad%bH<$l4;$rv;$u1_oFoZ",
  "$wd$x1$oZjh_qUx8yFby(zffi$c8zffg$x8dazffi$ilc8zffg~10F70!oTUYGHURlMas%bO%GIMEL-HETH%yY%zZ%gNiV",
  "%zQ%kn%lv%mJ%oI%sw%pI%so%rv%tr%v4%LESH$dqfgad&bH%x8fiad(bH$qUbu%x8by&fi;%hh~10FB0!CHORASMIANlM",
  "as;$ug$bO$hS$ee$iH$yY;$CURLED$zZ$iV$zQ$kn$lv$mJ$oI$sw$bf$pI$rv$tr$v4_oFoZ$x8$wN$hh$wd$x1$oZjh~",
  "10FE0!ELYMAIClMas$bO$hS$ee$iH$yY$zZ$iV$wk$zQ$kn$lv$mJ$oI$sw$bf$pI$so$qZ$rv$tr$v4_lPZAYIN-YODH~",
  "11000!BRAHMItGcA$aM$yJ$j9$yp_lMA$aa$I$jA$U$yv$yKR%sg%L%lW$E$al$O$bd$kg$kL$ht$hL$nX$cu$cP$j2$j7",
  "$oJ$xN$xO$en$ep$ol$vN$wo$d8$eH$nD$pn$pU$bg$bQ$me$zt$q8$ln$yw$s5$uD$sm$ig$lX$oTvZlY&sh&om_yNtGa",
  "a;%BHATTIPROLU%I%jA%U%yv%yKR&sg&L&lW%E%al%O%bd_yI_eh;_fk_qUfg;$fk$lS$dObu$l6~11052_oFoZ$x8$wN$",
  "hh$gW$tZ$s2$fJ$of$wd$x1$wG$hf$gI$t4$s4$fO$oh$oZjh%wK_eSz2$oZ$x8$wN$hh$gW$tZ$s2$fJ$of_tGoTvZyI_",
  "lMoTvZtvE(O_yNtGoTvZtvE)O_lMoTvZlX~1107F_oFkb!KAITHItGcA$aM$yJ_lMA$aa$I$jA$U$yv$E$al$O$bd$kg$k",
  "L$ht$hL$nX$cu$cP$j2$j7$oJ$xN$xO$en$DDDHA$ep$rC$ol$vN$wo$d8$eH$nD$pn$pU$bg$bQ$me$zt$q8$ln$yw$s5",
  "$uD$sm$ig_yNtGaa%I%jA%U%yv%E%al%O%bd_tGyI$oE_abtG;_ENUMERATION;_oF_sMmv<_fk_eh;_fk_yNtGyKR~110",
  "CD_oFtGad~110D0!SORA SOMPENGlMSAH%vT%BAH%CAH%DAH%GAH%MAH%NGAH%LAH%NAH%VAH%PAH%YAH%RAH%ii%KAH%J",
  "AH%NYAH%AH%EEH%IH%UH%OH%EH%MAE~110F0$eSz2%oZ%x8%wN%hh%gW%tZ%s2%fJ%of~11100!CHAKMAtGcA$aM$yJ_lM",
  "aa$I$U$E$KAA$KHAA$GAA$GHAA$nY$CAA$CHAA$JAA$JHAA$NYAA$TTAA$xP$DDAA$DDHAA$NNAA$vO$wp$DAA$DHAA$nE",
  "$PAA$PHAA$BAA$BHAA$MAA$YYAA$zu$RAA$LAA$WAA$SAA$ih_yNtGA%I%jA%U%yv%E%al%O%bd%OI_Omv;_bd_yI_MAAY",
  "YAA~11136_eSz2$oZ$x8$wN$hh$gW$tZ$s2$fJ$of_sMmv_eh;_fk_q6mv_lMLHAA_yNtGaa%EI_lMVAA~11150!MAHAJA",
  "NIlMA$I$U$E$O$kg$kL$ht$hL$cu$cP$j2$j7$oJ$xN$xO$en$ep$ol$vN$wo$d8$eH$nD$pn$pU$bg$bQ$me$q8$ln$yw",
  "$sm$ig$sh_tGoE_abtG_sMmv_lPSHRI~11180!SHARADAtGcA$aM$yJ_lMA$aa$I$jA$U$yv$yKR%sg%L%lW$E$al$O$bd",
  "$kg$kL$ht$hL$nX$cu$cP$j2$j7$oJ$xN$xO$en$ep$ol$vN$wo$d8$eH$nD$pn$pU$bg$bQ$me$zt$q8$ln$lX$yw$s5$",
  "uD$sm$ig_yNtGaa%I%jA%U%yv%yKR&sg&L&lW%E%al%O%bd_tGyI$be$j9$yp_oU_eh;_fk_abtG_sY_symv_tGoE_yNm3",
  "mv;_EXTRAtvyN;_SUTRA_yNtGqJE_tGjTcA_eSz2$oZ$x8$wN$hh$gW$tZ$s2$fJ$of_EKAM_tGtC_iK_CONTINUATIONt",
  "G_sMmw$mx~111E1!SINHALAaWeSoZ%x8%wN%hh%gW%tZ%s2%fJ%of$oFwd%x1%wG%hf%gI%t4%s4%fO%oh%oZjh&wK~112",
  "00!KHOJKIlMA$aa$I$U$E$al$O$bd$kg$kL$ht$hK$hL$nX$cu$cP$j2$JJA~11213$oJ$xN$xO$en$ep$ol$vN$wo$d8$",
  "eo$eH$nD$pn$pU$bg$bB$bQ$me$zt$q8$ln$yw$sm$ig$lX_yNtGaa%I%jA%U%E%al%O%bd_tGaM$yI$oE$s8_eh;_fk_z",
  "msY_sMmv<_fk_abtG_tGve~11280!MULTANIlMA$I$U$E$kg$kL$ht~11288$hL~1128A$cu$cP$j2$JJA~1128F$oJ$xN",
  "$xO$en$eo$ep$ol$vN$wo$d8$eH$nD$pn$pU$bg~1129F$bQ$me$zt$q8$ln$yw$sm$ig$sh$rC_sMmv~112B0!KHUDAWA",
  "DIlMA$aa$I$jA$U$yv$E$al$O$bd$kg$kL$ht$hK$hL$nX$cu$cP$j2$JJA$j7$oJ$xN$xO$en$eo$sh$ep$ol$vN$wo$d",
  "8$eH$nD$pn$pU$bg$bB$bQ$me$zt$q8$ln$yw$s5$sm$ig_tGaM_yNtGaa%I%jA%U%yv%E%al%O%bd_tGoE$yI~112F0_e",
  "Sz2$oZ$x8$wN$hh$gW$tZ$s2$fJ$of~11300!h3tGdqaMad$cA$aM$yJ~11305_lMA$aa$I$jA$U$yv$yKR%L~1130F$fH",
  "$al~11313$o1$bd$kg$kL$ht$hL$nX$cu$cP$j2$j7$oJ$xN$xO$en$ep$ol$vN$wo$d8$eH$nD~1132A$pn$pU$bg$bQ$",
  "me$zt$q8~11332$ln$lX~11335$yw$s5$uD$sm$ig~1133B!dqbUbH!h3tGoE$be_yNtGaa%I%jA%U%yv%yKR&sg~11347",
  "%fH%al~1134B%o1%bd_tGyI~11350_oU~11357_bdlImv~1135D_tGPLUTA_lMyCaM;%fk$yKsg%lW_yNtGyKL&lW~1136",
  "6!dqh3eSz2%oZ%x8%wN%hh%gW%tZ~11370$lMA%kg%nD%VI%pn~11400!NEWAlMA$aa$I$jA$U$yv$yKR%sg%L%lW$E$al",
  "$O$bd$kg$kL$ht$hL$nX$NGHA$cu$cP$j2$j7$oJ$NYHA$xN$xO$en$ep$ol$vN$wo$d8$eH$nD$n3$pn$pU$bg$bQ$me$",
  "MHA$zt$q8$rC$ln$lN$yR$s5$uD$sm$ig_yNtGaa%I%jA%U%yv%yKR&sg&L&lW%E%al%O%bd_tGyI$cA$aM$yJ$oE$be$g",
  "NaM_oU_SIDDHI_eh;_fk_dr_GAPgM_abtG_eSz2$oZ$x8$wN$hh$gW$tZ$s2$fJ$of_fkdr_qimv~1145D_jLtG_symv_l",
  "MyCaM_tGj9$yp~11480!TIRHUTA ANJI_lMA$aa$I$jA$U$yv$yKR%sg%L%lW$E$al$O$bd$kg$kL$ht$hL$nX$cu$cP$j",
  "2$j7$oJ$xN$xO$en$ep$ol$vN$wo$d8$eH$nD$pn$pU$bg$bQ$me$zt$q8$ln$yw$s5$uD$sm$ig_yNtGaa%I%jA%U%yv%",
  "yKR&sg&L&lW%E;%tv%al%O;%tv%bd_tGcA$aM$yJ$yI$oE$be_GVANG_abtG_oU~114D0_eSz2$oZ$x8$wN$hh$gW$tZ$s",
  "2$fJ$of~11580!tClMA$aa$I$jA$U$yv$yKR%sg%L%lW$E$al$O$bd$kg$kL$ht$hL$nX$cu$cP$j2$j7$oJ$xN$xO$en$",
  "ep$ol$vN$wo$d8$eH$nD$pn$pU$bg$bQ$me$zt$q8$ln$yw$s5$uD$sm$ig_yNtGaa%I%jA%U%yv%yKR&sg~115B8%E%al",
  "%O%bd_tGcA$aM$yJ$yI$oE$tC_eh;_fk_sYfg$bu_rumw$mx$MARK-3_f1oQwnmv_sMmvzfxBaDU-SHAPED ORNAMENTS)",
  "fjdP=&rg;*fk;*xD%fkr5(zfrg%zffkdP;&xD;&q2;&SEPTUPLE&daaDrg)x8ENCLOSURES;)hh_lMTHREE-CIRCLEayI<",
  "$x9&jA$ayU<_yNtG&yv~11600!MODIlMA$aa$I$jA$U$yv$yKR%sg%L%lW$E$al$O$bd$kg$kL$ht$hL$nX$cu$cP$j2$j",
  "7$oJ$xN$xO$en$ep$ol$vN$wo$d8$eH$nD$pn$pU$bg$bQ$me$zt$q8$ln$yw$s5$uD$sm$ig$lX_yNtGaa%I%jA%U%yv%",
  "yKR&sg&L&lW%E%al%O%bd_tGaM$yJ$yI$ARDHACANDRA_eh;_fk_abtG_tGHUVA~11650_eSz2$oZ$x8$wN$hh$gW$tZ$s",
  "2$fJ$of~11660!nabWzfpb_sbbW_fkbWzfpb=_xD;_bWzffk;_sbbWzf;&fk_jTbW%zffkpb_SWIRLbW%zfpb;&fk?_xU~",
  "11680!TAKRIlMA$aa$I$jA$U$yv$E$al$O$bd$kg$kL$ht$hL$nX$cu$cP$j2$j7$oJ$xN$xO$en$ep$ol$vN$wo$d8$eH",
  "$nD$pn$pU$bg$bQ$me$zt$q8$ln$yw$s5$sm$ig$sh_tGaM$yJ_yNtGaa%I%jA%U%yv%E%al%O%bd_tGyI$oE_lMaWkL_a",
  "btG~116C0_eSz2$oZ$x8$wN$hh$gW$tZ$s2$fJ$of~11700!AHOMlMkg$kL$nX$nD$vN;$ay$pn$pU$bg$me$j2$cP$wo$",
  "q8$ln$sm$oJ$ig$A$d8$eH$ht;$ay$hL$bQ$j7$aybg~1171D_dztGmGln&q8;&LIGATING_yNtGA%aa%I%jA%U%yv%E%A",
  "W%O%al%AM_tGKILLER~11730_eSz2$oZ$x8$wN$hh$gW$tZ$s2$fJ$of_oFwd$x1_tGugsM;$$RULAI_vwVI_lMcu$xN$x",
  "O$en$ep$ol$lX~11800!DOGRAlMA$aa$I$jA$U$yv$E$al$O$bd$kg$kL$ht$hL$nX$cu$cP$j2$j7$oJ$xN$xO$en$ep$",
  "ol$vN$wo$d8$eH$nD$pn$pU$bg$bQ$me$zt$q8$ln$yw$s5$uD$sm$ig$sh_yNtGaa%I%jA%U%yv%yKR&sg%E%al%O%bd_",
  "tGaM$yJ$yI$oE_abtG~118A0!WARANG CITIcBlMnY&A&y8&zS&zt&zO&jA&yv&E&O&aE&ht&k9&ENY&YUJ&UC&ENN&ODD",
  "&TTE&NUNG&d8&ba&AM&ck&qT&HIYO&HOLO&HORR&iD&SSUU&SII&VIYO$uglMnY&A&y8&zS&zt&zO&jA&yv&E&O&aE&ht&",
  "k9&ENY&YUJ&UC&ENN&ODD&TTE&NUNG&d8&ba&AM&ck&qT&HIYO&HOLO&HORR&iD&SSUU&SII&VIYO$eSz2%oZ%x8%wN%hh",
  "%gW%tZ%s2%fJ%of$oFwd%x1%wG%hf%gI%t4%s4%fO%oh~118FF$oU!DIVES AKURUlMA%aa%I%jA%U%yv%E~11909%O~11",
  "90C%kg%kL%ht%hL%nX%cu%cP%j2~11915%oJ%xN~11918%en%ep%ol%vN%wo%d8%eH%nD%pn%pU%bg%bQ%me%zt%YYA%q8",
  "%ln%yw%s5%uD%sm%ig%lX%zU$yNtGaa&I&jA&U&yv&E~11937&al&O~1193B$tGaM%cA%ik$yI$PREFIXED NASALtG$mG",
  "zt$jKq8;$mG$tGoE$fkeh$GAPgM$f1oQwnmv~11950$eSz2%oZ%x8%wN%hh%gW%tZ%s2%fJ%of~119A0!NANDINAGARIlM",
  "A$aa$I$jA$U$yv$yKR%sg~119AA$E$al$O$bd$kg$kL$ht$hL$nX$cu$cP$j2$j7$oJ$xN$xO$en$ep$ol$vN$wo$d8$eH",
  "$nD$pn$pU$bg$bQ$me$zt$q8$ln$yw$s5$uD$sm$ig$lX$sh_yNtGaa%I%jA%U%yv%yKR&sg~119DA%E%al%O%bd_tGaM$",
  "yJ$yI$be$tC_iK_yNtGqJE~11A00!ZANABAZARuAlMA$yNtGI&ye&U&E&oP&O&al&bd&rAI%lImv$lMkg%kL%ht%hL%nX%",
  "cu%cP%j2%oJ%xN%xO%en%ep%ol%vN%wo%d8%eH%nD%pn%pU%bg%bQ%me%xI%xK%fz%fC%z4%zU%-A%zt%q8%ln%yw%s5%u",
  "D%sm%ig%lh$gNdzmv$tGyI%cA&zfpb<%cz%aM%yJ$dolMq8$CLUSTER-FINALlMzt&q8&ln&yw$jKiImv<$dk$mvxL%s7;",
  "%fk%l4xL$jKDOUBLE-LINEDiImv=$dk$u6~11A50!SOYOMBOlMA_yNtGI%ye%U%E%O%oP%al%bd%yKR&L$lImv_lMkg$kL",
  "$ht$hL$nX$cu$cP$j2$j7$oJ$xN$xO$en$ep$ol$vN$wo$d8$eH$nD$pn$pU$bg$bQ$me$xI$xK$fz$z4$zU$-A$zt$q8$",
  "ln$yw$s5$uD$sm$ig$lh_tGj9$yp_dolMq8%ln%s5%sm_gNdztGG&K&nW&D&N&B&M&R&L&SH&S&-A_tGaM$yJ_hGmv_u6_",
  "mvxL$s7;$fk$PLUTA_iImvzfnjaDvhaDxDFLAME;+*_TERMINALmw$mx~11AB0!cxvuNATTILIKiX%HII%i5%HOO%ig%ih",
  "%SHRI%SHRII%SHRO%SHROO%SHRA%SHRAA$SPE$SPI$SPO$SPA!PAU CIN HAUlMpn&kg&ln&me&d8&zU&yw&nX&ig&ht&k",
  "L&sm&bg&cu&vN&wo&nD&pU&q8&gw&cP&A&E&I&O&U&UA&IA&gNP(K(T(M(N(L(W(nW(Y%r6xcl4(%syhYuV%r6xcl4gN;(",
  ";%syhYuV&xcl4((l4gN;(%mQxc%hYuVyy%mQxcl4gN;(%l8xcl4(%hYuV%l8xcl4gN;(;%hYuV~11C00!BHAIKSUKIlMA$",
  "aa$I$jA$U$yv$yKR%sg%L~11C0A$E$al$O$bd$kg$kL$ht$hL$nX$cu$cP$j2$j7$oJ$xN$xO$en$ep$ol$vN$wo$d8$eH",
  "$nD$pn$pU$bg$bQ$me$zt$q8$ln$yw$s5$uD$sm$ig_yNtGaa%I%jA%U%yv%yKR&sg&L~11C38%E%al%O%bd_tGcA$aM$y",
  "J$yI$be_eh;_fk_zmsY_GAP FILLER-1$FILLER-2~11C50_eSz2$oZ$x8$wN$hh$gW$tZ$s2$fJ$of_oFoZ$x8$wN$hh$",
  "gW$tZ$s2$fJ$of$wd$x1$wG$hf$gI$t4$s4$fO$oh_jiylmv~11C70;!MARCHENiI_mvs7_lMkg$kL$ht$nX$cu$cP$j2$",
  "oJ$vN$wo$d8$nD$pn$pU$bg$me$xI$xK$fz$yR$z4$zU$-A$zt$q8$ln$s5$sm$ig$A~11C92_u5lMkg%kL%ht%nX%cu%c",
  "P%j2%oJ%vN%wo%d8%nD%pn%pU%bg%me%xI%xK%fz%yR%z4%zU~11CA9%zt%q8%ln%s5%sm%ig%A_yNtGaa%I%U%E%O_tGa",
  "M$cA~11D00!MASARAM GONDIlMA%aa%I%jA%U%yv%E~11D08%al%O~11D0B%bd%kg%kL%ht%hL%nX%cu%cP%j2%j7%oJ%x",
  "N%xO%en%ep%ol%vN%wo%d8%eH%nD%pn%pU%bg%bQ%me%zt%q8%ln%yw%s5%uD%sm%ig%lX%lh%JNYA%TRA$yNtGaa&I&jA",
  "&U&yv&yKR~11D3A&E~11D3C&al&O~11D3F&bd$tGaM%yJ%oE%cz%ik$yI$REPHA$RA-KARA~11D50$eSz2%oZ%x8%wN%hh",
  "%gW%tZ%s2%fJ%of~11D60!GUNJALA GONDIlMA%aa%I%jA%U%yv~11D67%fH%al~11D6A%o1%bd%zt%yw%bg%bQ%me%kg%",
  "kL%vN%wo%ln%ht%hL%d8%eH%nD%cu%cP%xN%xO%lX%j2%j7%en%ep%nX%pn%pU%ig%q8%sm$yNtGaa&I&jA&U&yv~11D90",
  "&fH&al~11D93&o1&bd$tGaM%yJ$yI$oU~11DA0$eSz2%oZ%x8%wN%hh%gW%tZ%s2%fJ%of~11EE0!MAKASARlMkg$ht$nX",
  "$pn$bg$me$vN$d8$nD$cu$j2$oJ$zt$q8$ln$yw$sm$A_ANGKA_yNtGI%U%E%O_PASSIMBANG_f1oQsM~11FB0!LISUlMY",
  "HA~11FC0!vZhkoZTHREE-HUNDRED-AND-TWENTIETH%o0%EIGHTIETH%t5%FORTIETH%wH$wNfN%SIXTY-FOURTHS$oZxZ",
  "%SIXTEENTH-1%SIXTEENTH-2%we%fL$wNx0%t2$oZgH%q3%HALF-1%HALF-2$wNq4$DOWNSCALING FACTOR KIIZH_tGN",
  "EL$CEVITU$AAZHAAKKU$UZHAKKU$MUUVUZHAKKU$KURUNI$PATHAKKU$MUKKURUNI$KAACU$PANAM$PON$VARAAKAN$PAA",
  "RAM$KUZHI$VELI_WET CULTIVATIONtG<_DRY;_LAND;_stPAN;_TRADITIONALdN;$oF;_d3;_aDODD;_SPENT;_TOTAL",
  ";_jDqt;_STARTINGhm_tGMUTHALIYA$VAKAIYARAA~11FFF_qUf1oQwn!CUNEIFORMtGA%w5A&bn&hBwf&ig&jz&lpif&n",
  "w&sq$A2$AB%w5a5&fwif&hx&hBwf&ig&jzif&IMIN&lo&SHESH&UqjUqjU%if$AB2%w5bp&hBwf&mCqjfY&s6&vW$AD$AK",
  "%w5gf&SHITAqjhU$AL%w5AL&DIM2&hU&ig&kh&kR&tg&yu$ALAN$as$AMAR%w5tg$aC%pfaC%wNw5%qjnHo5aCqjnH(uB$",
  "ANSHE$APIN$ARAD%w5lk$ARKAB$ASAL2$a4%ZIDAwf;%KABA%pfa4xTpfxTxTpfxTpu(pfa4*dVa4pfa4pfa4$a5$a6$bg",
  "$bn$BAG3$bo$BAL%pfBAL$bp$bu$BARA2$bR%w5A&hD&jzif$ck%pfckAB(UN%dVck$BULUG%pfBULUG$cp$BUR2$d8$DA",
  "G%kUw5Aqjmz(AMAR(bp(bR(ht)qjmz(hR(hT(ie(ig(IR)qjmb(kk(ln(mb)qjMASH2(mc(nP(puqjpu(tB(vW(ybqjhT(",
  "yu$DAM$DAR$DARA3$DARA4$eI$DIB$DIM%w5tg$DIM2$DIN%kvUife2;$$fu%pffu%if%tl$DUB%w5gh$DUB2$fv$DUGUD",
  "$DUH$DUN$fw%if&if$DUN4$DUR2$E%w5pu%pfEoIpfoI$E2%w5Aqjigqjd8&hD&mN&sr&tg&U$EDIN$EGIR$fQ$fY%w5hB",
  "(wf&mC%dVfY;%o5%uB$EREN$gf$gh$EZEN%w5A(qjlr*w5lr&aC&bn&fwif)if&ig(if;&jz&kv(uB&lj&ln&lrw5lr&lO",
  "&mb&yb&yc$ht%if$GA2%w5Aqjd8qjig;))jz&AB2wfqjvP&aC&a4&a5qjhx&bn&buqjq8&cp(qjq8&d8&eI&DIMw5tg&DU",
  "B&fQ(qjln&fY(w5hBwf<&&hD&hR&GI4(qjA&hTqju3&igqjmbqjgh&HAL(qjln&iXqjlO&HUB2&jzif&ISHqjjfqja4&kk",
  "&kv&KID(qjlr&ljqjaC&ln&mCqjfY&mN&oI(pfoI&pn&sr&sB&tg(qjTUR&tn&vf&vW&U&yc(qjfu%pfGA2$GABA%dVGAB",
  "A$hu%pfhuhDpfhD$hx%hupfhuhDpfhD$GALAM$GAM$hA$hB%wf%pfhB;%dV$hD$GAR3$GASHAN$GESHTIN%w5lk$hR%w5E",
  "&U%dVhR$GI4%pfGI4;%dV$GIDIM$hT%if$GIR3%w5Aqjjz&hBwf&jz;&mbqj&pn$GISAL$hU%dVhU%w5bn&vW%wf$id%dV",
  "id$GU2%w5kk(w5jzif&oI&srqjxT%if$ie%w5Aqjlk;&%pfieLUGAL$GUL$GUM%w5tg$GUR$GUR7$GURUN$GURUSH$ig%w",
  "f%if$HAL$iX%w5a4&a5&bn&e2&hu&KIN&oI&tg&U$jf$HUB2%w5aC&HAL&kv&LISH&yc$HUL2$I%A$IB$IDIM%pfIDIMcp",
  "(uB$IG$jz%DIB%rE%pfjztspftsycpfyc%if$IL%w5hBwf$IL2$IM%w5vW%dVIM;%o5%uB$IMIN$jD$IR$ISH$kg%w5A&A",
  "D(qjlj&a5&bn&bp&bu&bR&gf&gh&ht&hx&hBwf&hD(qjs6qjA&hR&hT&hUqjsB(dVhU&id&GUR7&jz&IM&kk&kR&KID&lO",
  "&mb&mC(qjfu)hR)v6&mN(qjNUNUZ&nP&oI&p1&sj&sm&sB&s5&tg&tn&ty&SIG&SUHUR&v0&U&yb&yc&UMUMw5pn&yu&ZI",
  "$KA2%dVKA2$KAB$KAD2$kh$KAD4$KAD5%pfKAD5$kk%w5jzif$KAL%w5bn%dVKAL$KAM2$KAM4$kv%low5Upflow5U[%pf",
  "kv$KESH2$kR%w5bn&U&yc$KID$KIN$KISAL$KISH$kU%pfkU$li%pfiXw5a5lipfiXw5a5$lj$KU4%yyhe$KU7$KUL%if$",
  "KUN$lk%o5lk$ll$KWU318$ln$lo%w5A(qjd8qjig)hD)lr&AL&aC&a4ZIDAwf&bn&bR&DAR&fY&ht&hD&ie(qjie&ig&HA",
  "L&iXw5oI&jzif&IM(qjig)mb&kR&KIN&lj&KUL(qjiXqjA&lo&LISH&mb&LUL&mC(qjfY&nw&nP&tgqjvf&SHITAqjhUqj",
  "gf*wf&tz(qjtz&vf&TAG&vW&v6qjAqju3qjnD&U(qjA)UqjU&ybqja4&yc&yu%uB$lp%w5tg(qjvf%if&pflpiftg$LAHS",
  "HU$lr%w5lr$ls%w5lk(qjsj$lO$LIL$LIMMU2$LISH$mb%w5bn$LU2%w5AL&bn&gh(wf;&hB&iXw5bn&IM&KAD2&kh(qja",
  "4&kR&lnqja4&lo&mCqjfY&nP&oC&tBqja4&SIK2qjck&xT%wf%dVLU2;%o5%uB%tl$LU3$LUGAL%pfLUGAL;%o5%tl$LUH",
  "$LUL$mc%pfmc(hDpfhD$me%w5vW%if$MA2$MAH$MAR$mz$MASH2$mC$MES$mN$MIN$nr%pfnr$MUG%if$MUNSUB$MURGU2",
  "$nw%w5A&lk&zU%pfnw(w5AqjnD%dVnw$MUSH3%w5A(qjeI;&%if$nD$NA2$nH%jT%w5tywf%o5nH$NAGAR$NAM NUTILLU",
  "%$NAM2$nP%w5A&yc%tl$n4%w5E$NI2$NIM%w5hBwf<&hDqj$oe%w5aC&a4(qja4&ie&mCqjhBwf&nP&oI&tg(qjAaC)a4*",
  "qja4<&yb&yu$NISAG$oC$NU11$oI%lpw5hD(mz(sr)pfoIlpw5sr(yu%wf%pfoI;%dV(lppflp$NUNUZ%AB2w5a6(bR(fv",
  "(ie(jzif(kh(ln(nP(SILA3(yb%kUw5bR)U$pn$PAD$PAN$pu$PESH2$p1%w5A&AB&bR&ck&E&I&IB&U&yb%dVp1$PIRIG",
  "%w5KAL&yc&zU%o5PIRIG$q8$RAB$rE$sj$sm$sqNUTILLU%%w5A&fu&DUB&ig&kk&lk&mc&mN&oI&sr&tn&vP&yb&UB&UM",
  "&UR&yu%pfsq%if$sr%low5a5$SANGA2$sB$s5$s6%w5A&bn&hU&nP&tz&TUR&U(qjA$SHA6$SHAB6$td$tg%jf%pftghup",
  "fhuhDpfhD=(vPpfvP$SHEG9$SHEN$SHESH$SHESH2$SHESHLAM$tn%w5A&IM$SHIM%w5A&BAL&BULUG&DIN&hD&jz(if&l",
  "l&LUL&MUG&sr$SHINIG$ts%wf%pftscppfcp$SHITA$ty%pfjTty$tz$SHUBUR$tB%if$SIG$SIG4%pfSIG4tz$SIK2$SI",
  "LA3$u3%pfu3$SUD$SUD2$SUHUR$vf$SUMASH$SUR$SUR9$vN%a8%w5iX&mN%if$vP%pfvPn4pfn4e2pfe2%uB$TAG%w5bR",
  "&ie&tg&ty&xT&yc$vW$v0$v6%if$wR%wf$TIL$TIR%w5vW%pfTIR(hupfhuhDpfhD$xR$xT$TUK$TUM$TUR%pfTURzUpfz",
  "U$U%ie%U U%pfUpnpfpnhDpfhD(SURpfSUR(UrApfUrA$yb$UB$yc%ll%w5bn&mN&UqjUqjU,if;%%tl&w5bn$UDUG$UM%",
  "w5lo&mCqjd8&s6&U$UMBIN$UMUM%w5kv&pn$UN%if$UR%dVUR%tl$UR2%w5Aqjig)nD&AL&ig&oI&yb(qja4)bR$UR4$UR",
  "I$URI3$URU%w5A&a6&bu&DUN&ht&hx&hBwf&hD&id&ig&jz&IM&ISH&kR&mc&MIN&pn&tg&SIG4&xR&Uqjie&yc&yt;$%w",
  "5U$yu%w5A&li&lk&vW$USHX$USH2$USHUMX$UTUKI$UZ3%w5kv$UZU$zU%wf%uBw5lk$ZAG$ZAMX$ZE2$ZI%pfZI$ZI3$Z",
  "IB%KABAwf$ZIG$ZIZ2$ZU$ZU5%w5A$ZUBUR$ZUM$KAP ELAMITE$ABw5oI$AB2w5A$AMARw5KUG$DAGkUw5ybqjmz$DAG3",
  "$e2qjty$DUBw5tg$EZENw5ie&tg$GA2w5aCqjkkqjA&a5$GE22$GIG$HUSH$kgw5ANSHE&ASH3&hU&ie&iXw5a5&mc&pn&",
  "SHUL&xR&UR2$low5hR$LU2tlw5bn%w5ghqjlr&ty$MESH$MUSH3w5zU$NA4$NIN$NIN9$oew5BAL&hR$NU11sbohev$PES",
  "H2a8$PIR2$sqw5jzif$TI2$UMw5mC$U U~12400_NUMERICtGx8a4;%wN;%hh;%gW;%tZ;%s2;%fJ;%of%wNe2;%hh;%gW",
  ";%tZ;%s2;%fJ;%of%hhU;%gW;%tZ;%s2;%fJ;%of%oZGESH2;%x8;%wN;%hh;%gW;%tZ;%s2;%fJ;%of%oZGESHU;%x8;%",
  "wN;%hh;%gW%x8td;%wN(yyhe%hhtd;%gW;%tZ;%s2;%fJ;%of%oZSHARU;%x8;%wN(yyhe%hhSHARU;%gW%tdw5hxqje2*",
  "MIN%oZBURU;%x8;%wN(yyhe%hhBURU;%gW%wNyyheESH16)ESH21%hhyyheLIMMU)LIMMU4)LIMMU A*B%tZyyheASH9%s",
  "2yyheIMIN3)IMIN A*B%fJyyheUSSU)USSU3%ofyyheILIMMU)ILIMMU3)ILIMMU4)ILIMMU A%x8a4wf<%wN<%hh<%gW<",
  "%tZ%oZBAN2;%x8;%wN;%hh(yyhe%gWBAN2(yyhe%NIGIDAMIN%NIGIDAESH%oZESHE3;%x8%oZwDe2;%x8wE;%gWSIXTHS",
  "%oZwDyyheA=%x8wE%oZfLa4;&q3%oTASSYRIANoZt3)q3%oZq3GUR;&il%ELAMITEoZwD&x8wE&hf&gI%hhUyyhe=%gW=%",
  "tZ=%s2=%fJ=%of~12470_qUtGoTASSYRIANzme5%yFdp;%eK&TRICOLON&QUADCOLON~12480_tGABw5oIwf&tz$ADw5gh",
  "$bnw5e2wf$bow5AB2&n4&zU$ckpfckw5NA2$d8w5vW$DAGw5lk$DIMw5jz&U U U$DIM2w5yc$fvw5ANSHE&a4(balB&DI",
  "N&DUN&gf&ht&hR&hTif&hU&ig&iX&jzif&kv&lk&ll(qjkv&LAK-020&ls(w5lk&LUHqjhU&mz&MES&mN&n4&p1&tg&tBi",
  "f$E2w5lk&pu$gfX$ghdVgh$EZENtlw5a4(iX(jzif(ln(lr(mC(MES(u3<%$GA2w5bo&DIMif;&fvw5jz)kv&EREN&ht&h",
  "DqjeI)nP&igqjA&llqjkv&ls(w5lk&LUH&nw&nP(qjE2)hR&SHIM&ZIZ2$GABAsbohev$GESHTINw5U$hUw5hUdVhU$GU2",
  "w5jzif$ieqjhUw5vW$igwfif$iXw5a4pfiXw5a4$kgw5ck&kg&U U U&UR$low5ZUpfZU$LAK-003$LAK-021$LAK-025$",
  "LAK-030$LAK-050$LAK-051$LAK-062$LAK-079pfLAK-079if$LAK-080$LAK-081pfLAK-081$LAK-092$LAK-130$LA",
  "K-142$LAK-210$LAK-219$LAK-220$LAK-225$LAK-228$LAK-238$LAK-265$LAK-266$LAK-343$LAK-347$LAK-348$",
  "LAK-383$LAK-384$LAK-390$LAK-441$LAK-449%w5id&jz&puqjLU3;)puqj&ybqjbg$LAK-450$LAK-457$LAK-470$L",
  "AK-483$LAK-490$LAK-492$LAK-493$LAK-495$LAK-550$LAK-608$LAK-617%w5a4&bn&fwifif&lj&ln&v0&v6&yb&y",
  "c&yt$LAK-636$LAK-648%w5DUB&ht&jz(if&n4&puqjpuqjLU3&SHESHqjkR&yc&yt$LAK-724$LAK-749$LU2ifw5a4%w",
  "5e2&HAL&pu(qjpuqjLU3&vW$mNqjZA7$nwpfnww5ht)kk$oew5DIMif&hU&GUL&iX&KESH2&LAK-050&mz&puqjpu&U(qj",
  "U&yt$sqifw5ig%w5fY&tgbalB&vW$SHA6wf$tgpftg%qjHUB2&NAM2&sB$tzqjfvw5n4&E2w5aC$tBw5vW$vWqjsq$TUMw",
  "5hBwf&wNe2$UR2jT%w5yc$URUw5DARA3&LAK-668&LU3$ZA7$ZUpfZUqjsB$ZU5w5wNe2wf~12F90!CYPRO-MINOANtGCM",
  "001$CM002$CM004$CM005$CM006$CM007$CM008$CM009$CM010$CM011$CM012$CM012B$CM013$CM015$CM017$CM019",
  "$CM021$CM023$CM024$CM025$CM026$CM027$CM028$CM029$CM030$CM033$CM034$CM035$CM036$CM037$CM038$CM0",
  "39$CM040$CM041$CM044$CM046$CM047$CM049$CM050$CM051$CM052$CM053$CM054$CM055$CM056$CM058$CM059$C",
  "M060$CM061$CM062$CM063$CM064$CM066$CM067$CM068$CM069$CM070$CM071$CM072$CM073$CM074$CM075$CM075",
  "B$CM076$CM078$CM079$CM080$CM081$CM082$CM083$CM084$CM085$CM086$CM087$CM088$CM089$CM090$CM091$CM",
  "092$CM094$CM095$CM096$CM097$CM098$CM099$CM100$CM101$CM102$CM103$CM104$CM105$CM107$CM108$CM109$",
  "CM110$CM112$CM114$CM301$CM302~13000!EGYPTIANiYA001$A002$A003$A004$A005$A005A$A006$A006A$A006B$",
  "A007$A008$A009$A010$A011$A012$A013$A014$A014A$A015$A016$A017$A017A$A018$A019$A020$A021$A022$A0",
  "23$A024$A025$A026$A027$A028$A029$A030$A031$A032$A032A$A033$A034$A035$A036$A037$A038$A039$A040$",
  "A040A$A041$A042$A042A$A043$A043A$A044$A045$A045A$A046$A047$A048$A049$A050$A051$A052$A053$A054$",
  "A055$A056$A057$A058$A059$A060$A061$A062$A063$A064$A065$A066$A067$A068$A069$A070$B001$B002$B003",
  "$B004$B005$B005A$B006$B007$B008$B009$C001$C002$C002A$C002B$C002C$C003$C004$C005$C006$C007$C008",
  "$C009$C010$C010A$C011$C012$C013$C014$C015$C016$C017$C018$C019$C020$C021$C022$C023$C024$D001$D0",
  "02$D003$D004$D005$D006$D007$D008$D008A$D009$D010$D011$D012$D013$D014$D015$D016$D017$D018$D019$",
  "D020$D021$D022$D023$D024$D025$D026$D027$D027A$D028$D029$D030$D031$D031A$D032$D033$D034$D034A$D",
  "035$D036$D037$D038$D039$D040$D041$D042$D043$D044$D045$D046$D046A$D047$D048$D048A$D049$D050$D05",
  "0A$D050B$D050C$D050D$D050E$D050F$D050G$D050H$D050I$D051$D052$D052A$D053$D054$D054A$D055$D056$D",
  "057$D058$D059$D060$D061$D062$D063$D064$D065$D066$D067$D067A$D067B$D067C$D067D$D067E$D067F$D067",
  "G$D067H$E001$E002$E003$E004$E005$E006$E007$E008$E008A$E009$E009A$E010$E011$E012$E013$E014$E015",
  "$E016$E016A$E017$E017A$E018$E019$E020$E020A$E021$E022$E023$E024$E025$E026$E027$E028$E028A$E029",
  "$E030$E031$E032$E033$E034$E034A$E036$E037$E038$F001$F001A$F002$F003$F004$F005$F006$F007$F008$F",
  "009$F010$F011$F012$F013$F013A$F014$F015$F016$F017$F018$F019$F020$F021$F021A$F022$F023$F024$F02",
  "5$F026$F027$F028$F029$F030$F031$F031A$F032$F033$F034$F035$F036$F037$F037A$F038$F038A$F039$F040",
  "$F041$F042$F043$F044$F045$F045A$F046$F046A$F047$F047A$F048$F049$F050$F051$F051A$F051B$F051C$F0",
  "52$F053$G001$G002$G003$G004$G005$G006$G006A$G007$G007A$G007B$G008$G009$G010$G011$G011A$G012$G0",
  "13$G014$G015$G016$G017$G018$G019$G020$G020A$G021$G022$G023$G024$G025$G026$G026A$G027$G028$G029",
  "$G030$G031$G032$G033$G034$G035$G036$G036A$G037$G037A$G038$G039$G040$G041$G042$G043$G043A$G044$",
  "G045$G045A$G046$G047$G048$G049$G050$G051$G052$G053$G054$H001$H002$H003$H004$H005$H006$H006A$H0",
  "07$H008$I001$I002$I003$I004$I005$I005A$I006$I007$I008$I009$I009A$I010$I010A$I011$I011A$I012$I0",
  "13$I014$I015$K001$K002$K003$K004$K005$K006$K007$K008$L001$L002$L002A$L003$L004$L005$L006$L006A",
  "$L007$L008$M001$M001A$M001B$M002$M003$M003A$M004$M005$M006$M007$M008$M009$M010$M010A$M011$M012",
  "$M012A$M012B$M012C$M012D$M012E$M012F$M012G$M012H$M013$M014$M015$M015A$M016$M016A$M017$M017A$M0",
  "18$M019$M020$M021$M022$M022A$M023$M024$M024A$M025$M026$M027$M028$M028A$M029$M030$M031$M031A$M0",
  "32$M033$M033A$M033B$M034$M035$M036$M037$M038$M039$M040$M040A$M041$M042$M043$M044$N001$N002$N00",
  "3$N004$N005$N006$N007$N008$N009$N010$N011$N012$N013$N014$N015$N016$N017$N018$N018A$N018B$N019$",
  "N020$N021$N022$N023$N024$N025$N025A$N026$N027$N028$N029$N030$N031$N032$N033$N033A$N034$N034A$N",
  "035$N035A$N036$N037$N037A$N038$N039$N040$N041$N042$NL001$NL002$NL003$NL004$NL005$NL005A$NL006$",
  "NL007$NL008$NL009$NL010$NL011$NL012$NL013$NL014$NL015$NL016$NL017$NL017A$NL018$NL019$NL020$NU0",
  "01$NU002$NU003$NU004$NU005$NU006$NU007$NU008$NU009$NU010$NU010A$NU011$NU011A$NU012$NU013$NU014",
  "$NU015$NU016$NU017$NU018$NU018A$NU019$NU020$NU021$NU022$NU022A$O001$O001A$O002$O003$O004$O005$",
  "O005A$O006$O006A$O006B$O006C$O006D$O006E$O006F$O007$O008$O009$O010$O010A$O010B$O010C$O011$O012",
  "$O013$O014$O015$O016$O017$O018$O019$O019A$O020$O020A$O021$O022$O023$O024$O024A$O025$O025A$O026",
  "$O027$O028$O029$O029A$O030$O030A$O031$O032$O033$O033A$O034$O035$O036$O036A$O036B$O036C$O036D$O",
  "037$O038$O039$O040$O041$O042$O043$O044$O045$O046$O047$O048$O049$O050$O050A$O050B$O051$P001$P00",
  "1A$P002$P003$P003A$P004$P005$P006$P007$P008$P009$P010$P011$Q001$Q002$Q003$Q004$Q005$Q006$Q007$",
  "R001$R002$R002A$R003$R003A$R003B$R004$R005$R006$R007$R008$R009$R010$R010A$R011$R012$R013$R014$",
  "R015$R016$R016A$R017$R018$R019$R020$R021$R022$R023$R024$R025$R026$R027$R028$R029$S001$S002$S00",
  "2A$S003$S004$S005$S006$S006A$S007$S008$S009$S010$S011$S012$S013$S014$S014A$S014B$S015$S016$S01",
  "7$S017A$S018$S019$S020$S021$S022$S023$S024$S025$S026$S026A$S026B$S027$S028$S029$S030$S031$S032",
  "$S033$S034$S035$S035A$S036$S037$S038$S039$S040$S041$S042$S043$S044$S045$S046$T001$T002$T003$T0",
  "03A$T004$T005$T006$T007$T007A$T008$T008A$T009$T009A$T010$T011$T011A$T012$T013$T014$T015$T016$T",
  "016A$T017$T018$T019$T020$T021$T022$T023$T024$T025$T026$T027$T028$T029$T030$T031$T032$T032A$T03",
  "3$T033A$T034$T035$T036$U001$U002$U003$U004$U005$U006$U006A$U006B$U007$U008$U009$U010$U011$U012",
  "$U013$U014$U015$U016$U017$U018$U019$U020$U021$U022$U023$U023A$U024$U025$U026$U027$U028$U029$U0",
  "29A$U030$U031$U032$U032A$U033$U034$U035$U036$U037$U038$U039$U040$U041$U042$V001$V001A$V001B$V0",
  "01C$V001D$V001E$V001F$V001G$V001H$V001I$V002$V002A$V003$V004$V005$V006$V007$V007A$V007B$V008$V",
  "009$V010$V011$V011A$V011B$V011C$V012$V012A$V012B$V013$V014$V015$V016$V017$V018$V019$V020$V020A",
  "$V020B$V020C$V020D$V020E$V020F$V020G$V020H$V020I$V020J$V020K$V020L$V021$V022$V023$V023A$V024$V",
  "025$V026$V027$V028$V028A$V029$V029A$V030$V030A$V031$V031A$V032$V033$V033A$V034$V035$V036$V037$",
  "V037A$V038$V039$V040$V040A$W001$W002$W003$W003A$W004$W005$W006$W007$W008$W009$W009A$W010$W010A",
  "$W011$W012$W013$W014$W014A$W015$W016$W017$W017A$W018$W018A$W019$W020$W021$W022$W023$W024$W024A",
  "$W025$X001$X002$X003$X004$X004A$X004B$X005$X006$X006A$X007$X008$X008A$Y001$Y001A$Y002$Y003$Y00",
  "4$Y005$Y006$Y007$Y008$Z001$Z002$Z002A$Z002B$Z002C$Z002D$Z003$Z003A$Z003B$Z004$Z004A$Z005$Z005A",
  "$Z006$Z007$Z008$Z009$Z010$Z011$Z012$Z013$Z014$Z015$Z015A$Z015B$Z015C$Z015D$Z015E$Z015F$Z015G$Z",
  "015H$Z015I$Z016$Z016A$Z016B$Z016C$Z016D$Z016E$Z016F$Z016G$Z016H$AA001$AA002$AA003$AA004$AA005$",
  "AA006$AA007$AA007A$AA007B$AA008$AA009$AA010$AA011$AA012$AA013$AA014$AA015$AA016$AA017$AA018$AA",
  "019$AA020$AA021$AA022$AA023$AA024$AA025$AA026$AA027$AA028$AA029$AA030$AA031$AA032~13430$yFkb;$",
  "ja$INSERTbaxouP;&b9&xof1;&b9$pjmR$bESEGMENT;$f1~14400!ANATOLIANiYA001$A002$A003$A004$A005$A006",
  "$A007$A008$A009$A010$A010A$A011$A012$A013$A014$A015$A016$A017$A018$A019$A020$A021$A022$A023$A0",
  "24$A025$A026$A026A$A027$A028$A029$A030$A031$A032$A033$A034$A035$A036$A037$A038$A039$A039A$A040",
  "$A041$A041A$A042$A043$A044$A045$A045A$A046$A046A$A046B$A047$A048$A049$A050$A051$A052$A053$A054",
  "$A055$A056$A057$A058$A059$A060$A061$A062$A063$A064$A065$A066$A066A$A066B$A066C$A067$A068$A069$",
  "A070$A071$A072$A073$A074$A075$A076$A077$A078$A079$A080$A081$A082$A083$A084$A085$A086$A087$A088",
  "$A089$A090$A091$A092$A093$A094$A095$A096$A097$A097A$A098$A098A$A099$A100$A100A$A101$A101A$A102",
  "$A102A$A103$A104$A104A$A104B$A104C$A105$A105A$A105B$A106$A107$A107A$A107B$A107C$A108$A109$A110",
  "$A110A$A110B$A111$A112$A113$A114$A115$A115A$A116$A117$A118$A119$A120$A121$A122$A123$A124$A125$",
  "A125A$A126$A127$A128$A129$A130$A131$A132$A133$A134$A135$A135A$A136$A137$A138$A139$A140$A141$A1",
  "42$A143$A144$A145$A146$A147$A148$A149$A150$A151$A152$A153$A154$A155$A156$A157$A158$A159$A160$A",
  "161$A162$A163$A164$A165$A166$A167$A168$A169$A170$A171$A172$A173$A174$A175$A176$A177$A178$A179$",
  "A180$A181$A182$A183$A184$A185$A186$A187$A188$A189$A190$A191$A192$A193$A194$A195$A196$A197$A198",
  "$A199$A200$A201$A202$A202A$A202B$A203$A204$A205$A206$A207$A207A$A208$A209$A209A$A210$A211$A212",
  "$A213$A214$A215$A215A$A216$A216A$A217$A218$A219$A220$A221$A222$A223$A224$A225$A226$A227$A227A$",
  "A228$A229$A230$A231$A232$A233$A234$A235$A236$A237$A238$A239$A240$A241$A242$A243$A244$A245$A246",
  "$A247$A248$A249$A250$A251$A252$A253$A254$A255$A256$A257$A258$A259$A260$A261$A262$A263$A264$A26",
  "5$A266$A267$A267A$A268$A269$A270$A271$A272$A273$A274$A275$A276$A277$A278$A279$A280$A281$A282$A",
  "283$A284$A285$A286$A287$A288$A289$A289A$A290$A291$A292$A293$A294$A294A$A295$A296$A297$A298$A29",
  "9$A299A$A300$A301$A302$A303$A304$A305$A306$A307$A308$A309$A309A$A310$A311$A312$A313$A314$A315$",
  "A316$A317$A318$A319$A320$A321$A322$A323$A324$A325$A326$A327$A328$A329$A329A$A330$A331$A332A$A3",
  "32B$A332C$A333$A334$A335$A336$A336A$A336B$A336C$A337$A338$A339$A340$A341$A342$A343$A344$A345$A",
  "346$A347$A348$A349$A350$A351$A352$A353$A354$A355$A356$A357$A358$A359$A359A$A360$A361$A362$A363",
  "$A364$A364A$A365$A366$A367$A368$A368A$A369$A370$A371$A371A$A372$A373$A374$A375$A376$A377$A378$",
  "A379$A380$A381$A381A$A382$A383q8o7rE$A383A$A384$A385$A386$A386A$A387$A388$A389$A390$A391$A392$",
  "A393fJ$A394$A395$A396$A397$A398$A399$A400$A401$A402$A403$A404$A405$A406$A407$A408$A409$A410bEl",
  "3mv<$A410Af1$A411$A412$A413$A414$A415$A416$A417$A418$A419$A420$A421$A422$A423$A424$A425$A426$A",
  "427$A428$A429$A430$A431$A432$A433$A434$A435$A436$A437$A438$A439$A440$A441$A442$A443$A444$A445$",
  "A446$A447$A448$A449$A450$A450A$A451$A452$A453$A454$A455$A456$A457$A457A$A458$A459$A460$A461$A4",
  "62$A463$A464$A465$A466$A467$A468$A469$A470$A471$A472$A473$A474$A475$A476$A477$A478$A479$A480$A",
  "481$A482$A483$A484$A485$A486$A487$A488$A489$A490$A491$A492$A493$A494$A495$A496$A497$A501$A502$",
  "A503$A504$A505$A506$A507$A508$A509$A510$A511$A512$A513$A514$A515$A516$A517$A518$A519$A520$A521",
  "$A522$A523$A524$A525$A526$A527$A528$A529$A530~16800!BAMUMlMPHASE-A NGKUEmL%GBIEE FON%PONmLqf(P",
  "IPAEMBA%nEmL%SHUENSHUET%TITAmL;%NZA%SHINDApnNJI%PONpnNJIqf)PIPAEMBA%MAEMBGBIEE%xRmi%NGANGU%MAE",
  "MVEUX%MANSUAE%MVEUAENGAM%SEUNYAM%NTOQPEN%KEUKEUTNDA%NKINDI%SUU%NGKUENZEUM%LAPAQ%LET KUT%oAMFAA",
  "%MAEKEUP%PASHAE%GHEUAERAE%PAMSHAE%m9NGGEUAET%NZUN MEUT%U YUQ NAE%GHEUAEGHEUAE%oANTAA%SISA%MGBA",
  "SA%MEUNJOMNDEUQ%MOOMPUQ%KAFA%pnLEERAEWA;%nN%PET%MAEMKPEN%NIKA%PUP%TUAEP%LUAEP%SONJAM%TEUTEUWEN",
  "%MAENYI%kH%NDAANGGEUAET%KUOQ%MOOMEUT%SHUM%LOMMAE%FIRI%ROM%KPOQ%SOQ%MAP PIEET%SHIRAE%oA%SHOQ NS",
  "HUT YUM%NYIT MONGKEUAEQ%PAARAE%NKAARAE%UNKNOWN%n0%MAESI%NJAM%MBANYI%NYET%TEUAEN%SOT%PAAM%NSHIE",
  "E%MAEM%oL%KAQ%NSHA%yD%mb%NEN%NAQ%MBAQ$PHASE-B NSHUET%xRMAEMGBIEE%SIEE%s1xR%LOMoB%MBA MAELEE%KI",
  "EEM%YEURAE%MBAARAE%KAM%PEESHI%YAFU LEERAEWA%lsNSHUToK%NTIEE SHEUOQ%NDU NJAA%GHEUGHEUAEM%PIT%xR",
  "NSIEE%SHET NJAQ%SHEUAEQTU%mLTEUAEQ%MBIT MBAAKET%oLoB%KEUPUQ%GHEUGHEN%KEUYEUX%LAANAE%PARUM%VEUM",
  "%NGKINDI MVOP%NGGEU MBU%WUAET%SAKEUAE%TAAM%MEUQ%NGGUOQ&lw%MFIYAQ%SUE%MBEURI%MONTIEEN%NYAEMAE%P",
  "UNGAAM%MEUT NGGEET%FEUX%MBUOQ%gD%KEUAEM%meNJEUAENA&NJUQA%LET%NGGAAM%NSEN%me%KIQ%NGOM$PHASE-C N",
  "GKUEmi%NZA%YUM%WANGKUOQ%n0%NDEUAEREE%NGKAQ%GHARAE%MBEEKEET%GBAYI%NYIR MKPARAQ MEUN%NTU MBIT%MB",
  "EUM%PIRIEEN%NDOMBU%mBCABBAGE-TREE%KEUSHEUAEP%GHAP%KEUKAQ%zSMUOMAE%NZEUM%MBUE%NSEUAEN%MBIT%YEUQ",
  "%KPARAQ%KAA%SEUX%NDIDA%TAASHAE%NJUEQ%TITA YUE%SUAET%NGGUAENoK%VEUX%NANSANAQ%meKEUAERI%NTAA%NGG",
  "UON%LAP%MBIRIEEN%MGBASAQ%NTEUNGBA%TEUTEUX%NGGUM%FUE%NDEUT%NSA%NSHAQ%BUNG%VEUAEPEN%MBERAE%sj%NJ",
  "AEM%ls%TITUAEP%NSUOT NGOM%NJEEEE%kH%NGGU%MAESI%MBUAEM%mb%KUT%NJAM%NGOM%WUP%NGGUEET%NSOM%NTEN%K",
  "UOP NKAARAE%NSUN%NDAM%meNSIEE%zu%NDAP%SHUEQ%SETFON%MBI%mi%MBANYI%KEUSEUX%MBEUX%KEUM%mBPICKET%Y",
  "UWOQ%NJEUX%MIEE%MUAE%SHIQ%KEN LAW&FATIGUE%NGAQ%NAQ%LIQ%PIN%PEN%wi$PHASE-D MBUO%WAP%NJI%mL%NJIE",
  "E%LIEE%NJEUT%NSHEE%NGGAAMAE%oK%WUAEN%NGKUN%th%NGKAP%KEUAETMEUN%TEUT%SHEUAE%NJAP%SUE%kH%YAEMMAE",
  "%KUOM%SAP%MFEUT%NDEUX%MALEERI%MEUT%SEUAEQ%YEN%NJEUAEM%KEUOT MBUAE%NGKEURI%xR%GHAA%NGKYEE%FEUFE",
  "UAET%NDEE%MGBOFUM%LEUAEP%NDON%MONI%MGBEUN%PUUT%MGBIEE%MFO%mc%NSIEEP%mB%KWAET%NYET%TEUAEN%SOT%Y",
  "UWOQ%KEUM%RAEM%TEEEE%NGKEUAEQ%MFEUAE%NSIEET%KEUP%PIP%PEUTAE%NYUE%LET%NGGAAM%MFIEE%NGGWAEN%YUOM",
  "%pu%YUOP%NDAM%oB%SUAE%KUN%NGGEUX%NGKIEE%TUOT%MEUN%KUQ%NSUM%TEUN%MAENJET%NGGAP%LEUM%NGGUOM%NSHU",
  "T%NJUEQ%GHEUAE%li%RENoT%TAE%TOQ%oL%RII%LEEEE%MEEEE%M%SUU%nr%tp%SHEUX%lm%oC%ty%NTEE%pL%n4%SHOQ%",
  "PUQ%MVOP%LOQ%REN MUCH%wR%NTUU%mBs2%SAQ%FAA$PHASE-E NDAP%TOON%MBEUM%LAP%VOM%LOON%PAA%SOM%RAQ%NS",
  "HUOP%NDUN%PUAE%vY%NGKA%KPEUX%WUO%sN%NGGEUAET%PAAM%TOO%KUOP%LOM%NSHIEE%NGOP%MAEM%NGKEUX%NGOQ%NS",
  "HUE%RIMGBA%NJEUX%PEEM%SAA%NGGURAE%MGBA%GHEUX%NGKEUAEM%NJAEMLI%MAP%LOOT%NGGEEEE%NDIQ%TAENoB%s1%",
  "PUM%nOSOFTNESS%NGGUAESHAEoK%YIEE%GHEUN%TUAE%YEUAE%qk%TUMAE%KEUAE%SUAEN%TEUAEQ%VEUAE%WEUX%LAAM%",
  "qT%TAAQ%GHAAMAE%NGEUREUT%SHEUAEQ%MGBEN%MBEE%NZAQ%NKOM%GBET%TUM%KUET%YAP%oLCLEAVER%YIT%MFEUQ%ND",
  "IAQ%PIEEQ%YUEQ%LEUAEM%FUE%GBEUX%NGKUP%kH%MAE%NGKAAMI%GHET%gw%NTUM%PEUT%YEUM%NGGEUAE%oLbP%NZUQ%",
  "POON%MIEE%FUET%NAE%MUAE%GHEUAE%FU I%MVI%PUAQ%NGKUM%KUT%PIET%oA%YEUAET%NGGUP%pnPEOPLE%FU CALL%F",
  "OM%ok%A%TOQ%O%I%LAQ%pnPLURAL%vO%TAQ%nOMYje%SHIQ%YEUX%NGUAE%YUAEN%YOQ SWIMMING&dM%YUQ%YUN%KEUX%",
  "PEUX%okEPOCH%PUE%WUE%gD%yD%mb%mN%REUX%ra%NGUAET%nX%tt%SHOQ%FU REMEDY%nD%p1%LOQ%k9%mK%me%MAQ%TE",
  "U%kR%m9%wd%FAQ%GHOM$PHASE-Fkg%U%li%fH%REE%TAE%oL%ln%RII%RIEE%MEEEE%vO%nO%NJAEM%M%SUU%tp%tB%SEU",
  "X%lm%kH%NUAE%oC%NJUAE%YOQ%ty%zt%NSHA%PEUX%NTEE%WUE%pL%sj%n4%REUX%KEN%NGKWAEN%nZ%tt%PUAE%FOM%yR",
  "%lO%LOQ%k9%MBEN%REN%me%m1%mB%wi%KPA%SAMBA%VUEQ~16A40!MROlMvN$NGI$zO$MIM$bg$d8$A$pX$KHAI$HAO$DA",
  "I$CHU$KEAAE$OL$MAEM$NIN$pn$o1$O$r8$tm$THEA$EA$yR$E$k9$LAN$ln$HAI$rE$TEK~16A60_eSz2$oZ$x8$wN$hh",
  "$gW$tZ$s2$fJ$of~16A6E_eh;_fk!TANGSAlMOZ$OC$OQ$OX$AZ$AC$AQ$AX$VZ$VC$VQ$VX$EZ$EC$EQ$EX$IZ$IC$IQ$",
  "IX$UZ$UC$UQ$UX$AWZ$AWC$AWQ$AWX$UIZ$UIC$UIQ$UIX$gNnW$l4UEX$tvUEZ%AWX$UEC$UEZ$UEQ$UEX$UIUZ$UIUC$",
  "UIUQ$UIUX$MZ$MC$MQ$MX$kg$kL$ht$nX$sm$zt$yR$pn$oJ$pU$bg$me$nD$ig$ln$HTA$vN$d8$q8$n3$s5$cu$xI$hL",
  "$HTTA$wo$zq$gw$eH$cP$zU~16AC0_eSz2$oZ$x8$wN$hh$gW$tZ$s2$fJ$of~16AD0!bAVAHlMENNI%kg%sJ%gw%MBE%Y",
  "IE%GAH%DHII%KPAH%JO%HWAH%yR%ZO%GBU%e9%CE%UWU%w9%bg%VU%YEIN%pn%WADDA%A%O%o1%U%fH%E%I~16AF0$dqi0",
  "xc;%l7;%mP;%LOW-MID;%HIGH-LOW$hquV~16B00!PAHAWH HMONGyNKEEB%KEEV%KIB%KIV%KAUB%KAUV%KUB%KUV%KEB",
  "%KEV%KAIB%KAIV%KOOB%KOOV%KAWB%KAWV%KUAB%KUAV%KOB%KOV%KIAB%KIAV%KAB%KAV%KWB%KWV%KAAB%KAAV$dzVAU",
  "%NTSAU%LAU%HAU%NLAU%RAU%NKAU%QHAU%YAU%HLAU%MAU%CHAU%NCHAU%HNAU%PLHAU%NTHAU%NAU%bd%XAU%CAU$mvCI",
  "M TUB&ul&KES&KHAV&SUAM&HOM&TAUM$tGVOS THOM&TSHAB CEEB%CIM CHEEM%VOS THIAB&FEEM%XYEEM NTXIV&rD&",
  "TOV&FAIB%VOS SEEV%MEEJ SUAB%VOS NRUA%IB YAM%XAUS%CIM TSOV ROG~16B50$eSz2%oZ%x8%wN%hh%gW%tZ%s2%",
  "fJ%of~16B5B$oFTENS%ji%wdwL%mZ;%jh%wdBILLIONS%TRILLIONS~16B63$tGVOS LUB%XYOO%HLI;%THIRD-STAGE%Z",
  "WJ THAJ%HNUB%NQIG%XIAB%NTUJ%AV%TXHEEJ CEEV%MEEJ TSEEB%v3%LOS%MUS%CIM HAIS LUS NTOG NTOG&CUAM T",
  "SHOOJ&TXWV(CHWV&PUB DAWB&NRES TOS~16B7D$CLANtGTSHEEJ&YEEG&LIS&LAUJ&XYOOJ&KOO&HAWJ&MUAS&THOJ&TS",
  "AB&PHAB&KHAB&HAM&VAJ&FAJ&YAJ&TSWB&KWM&VWJ~16E40!MEDEFAIDRINcBlMM%S%V%W%ATIU%Z%KP%P%T%G%F%I%K%A",
  "%J%E%B%C%U%zS%L%Q%HP%NY%X%D%oP%N%R%O%al%Y_uglMM%S%V%W%ATIU%Z%KP%P%T%G%F%I%K%A%J%E%B%C%U%zS%L%Q",
  "%HP%NY%X%D%oP%N%R%O%al%Y_eSz2$oZ$x8$wN$hh$gW$tZ$s2$fJ$of_oFwd$fU$xY$wF$hi$gG$t0$s3$fK$og_eSoZa",
  "yhe<$x8<$wN_dr_hquV_vwAIVA_glOH~16F00!MIAOlMpn$bg$zLpn$PLA$me$MHA$aWme$gw$yw$VFA$vN$d8$zLxN%vN",
  "$xN$en$nD$n3$zLol$aWnD$ol$NNHA$ln$LYA$lN$LHYA$TLHA$DLHA$TLHYA$DLHYA$kg$ht$zLkg$qW$QGA$nX$NGHA$",
  "aWnX$ig$zq$hL$GHHA$TSSA$DZZA$oJ$NYHA$xK$fC$zLxK%fC$rpxK$s5$uD$z4$ZSHA$xI$fz$zLxI$sm$zU$ZSA$ZZA",
  "$ZZSA$aWZZA$ZZYA$ZZSYA$yR$AH$iW$BRI$SYI$DZYI$v6$xJ$RTE~16F4F_tGdzm3bu_lMnK_tGa7$rpVOICING%a7_y",
  "NtGA%aa%AHH%aC%aE%O%o1%zi%W%E%fY%f2%OEY%I%IA%IAN%IANG%IO%jw%jA%IU%ING%U%UA%UAN%UANG%yv%UEI%UNG",
  "%Y%zL%ai%AEE%ERR;%sf%ER;%sf%al%EI%bd%OU%N%nW%UOG%YUI%OG%OER%VW%IG%EA%IONG%UI~16F8F_xcrY;$xo$ad",
  "$bH_lMxe$xf$xg$xh$xi$xj$xk$rpxd%xe%xg%xh%xi%xk~16FE0!TANGUTjZmv<!NUSHU;!oTCHINESEi8;$jZ!KHITAN",
  "ugsIgM~16FF0!VIETNAMESEayREADINGmvcu&NHAY~18800!TANGUT COMPONENT-001_COMPONENT-002_COMPONENT-0",
  "03_COMPONENT-004_COMPONENT-005_COMPONENT-006_COMPONENT-007_COMPONENT-008_COMPONENT-009_COMPONE",
  "NT-010_COMPONENT-011_COMPONENT-012_COMPONENT-013_COMPONENT-014_COMPONENT-015_COMPONENT-016_COM",
  "PONENT-017_COMPONENT-018_COMPONENT-019_COMPONENT-020_COMPONENT-021_COMPONENT-022_COMPONENT-023",
  "_COMPONENT-024_COMPONENT-025_COMPONENT-026_COMPONENT-027_COMPONENT-028_COMPONENT-029_COMPONENT",
  "-030_COMPONENT-031_COMPONENT-032_COMPONENT-033_COMPONENT-034_COMPONENT-035_COMPONENT-036_COMPO",
  "NENT-037_COMPONENT-038_COMPONENT-039_COMPONENT-040_COMPONENT-041_COMPONENT-042_COMPONENT-043_C",
  "OMPONENT-044_COMPONENT-045_COMPONENT-046_COMPONENT-047_COMPONENT-048_COMPONENT-049_COMPONENT-0",
  "50_COMPONENT-051_COMPONENT-052_COMPONENT-053_COMPONENT-054_COMPONENT-055_COMPONENT-056_COMPONE",
  "NT-057_COMPONENT-058_COMPONENT-059_COMPONENT-060_COMPONENT-061_COMPONENT-062_COMPONENT-063_COM",
  "PONENT-064_COMPONENT-065_COMPONENT-066_COMPONENT-067_COMPONENT-068_COMPONENT-069_COMPONENT-070",
  "_COMPONENT-071_COMPONENT-072_COMPONENT-073_COMPONENT-074_COMPONENT-075_COMPONENT-076_COMPONENT",
  "-077_COMPONENT-078_COMPONENT-079_COMPONENT-080_COMPONENT-081_COMPONENT-082_COMPONENT-083_COMPO",
  "NENT-084_COMPONENT-085_COMPONENT-086_COMPONENT-087_COMPONENT-088_COMPONENT-089_COMPONENT-090_C",
  "OMPONENT-091_COMPONENT-092_COMPONENT-093_COMPONENT-094_COMPONENT-095_COMPONENT-096_COMPONENT-0",
  "97_COMPONENT-098_COMPONENT-099_COMPONENT-100_COMPONENT-101_COMPONENT-102_COMPONENT-103_COMPONE",
  "NT-104_COMPONENT-105_COMPONENT-106_COMPONENT-107_COMPONENT-108_COMPONENT-109_COMPONENT-110_COM",
  "PONENT-111_COMPONENT-112_COMPONENT-113_COMPONENT-114_COMPONENT-115_COMPONENT-116_COMPONENT-117",
  "_COMPONENT-118_COMPONENT-119_COMPONENT-120_COMPONENT-121_COMPONENT-122_COMPONENT-123_COMPONENT",
  "-124_COMPONENT-125_COMPONENT-126_COMPONENT-127_COMPONENT-128_COMPONENT-129_COMPONENT-130_COMPO",
  "NENT-131_COMPONENT-132_COMPONENT-133_COMPONENT-134_COMPONENT-135_COMPONENT-136_COMPONENT-137_C",
  "OMPONENT-138_COMPONENT-139_COMPONENT-140_COMPONENT-141_COMPONENT-142_COMPONENT-143_COMPONENT-1",
  "44_COMPONENT-145_COMPONENT-146_COMPONENT-147_COMPONENT-148_COMPONENT-149_COMPONENT-150_COMPONE",
  "NT-151_COMPONENT-152_COMPONENT-153_COMPONENT-154_COMPONENT-155_COMPONENT-156_COMPONENT-157_COM",
  "PONENT-158_COMPONENT-159_COMPONENT-160_COMPONENT-161_COMPONENT-162_COMPONENT-163_COMPONENT-164",
  "_COMPONENT-165_COMPONENT-166_COMPONENT-167_COMPONENT-168_COMPONENT-169_COMPONENT-170_COMPONENT",
  "-171_COMPONENT-172_COMPONENT-173_COMPONENT-174_COMPONENT-175_COMPONENT-176_COMPONENT-177_COMPO",
  "NENT-178_COMPONENT-179_COMPONENT-180_COMPONENT-181_COMPONENT-182_COMPONENT-183_COMPONENT-184_C",
  "OMPONENT-185_COMPONENT-186_COMPONENT-187_COMPONENT-188_COMPONENT-189_COMPONENT-190_COMPONENT-1",
  "91_COMPONENT-192_COMPONENT-193_COMPONENT-194_COMPONENT-195_COMPONENT-196_COMPONENT-197_COMPONE",
  "NT-198_COMPONENT-199_COMPONENT-200_COMPONENT-201_COMPONENT-202_COMPONENT-203_COMPONENT-204_COM",
  "PONENT-205_COMPONENT-206_COMPONENT-207_COMPONENT-208_COMPONENT-209_COMPONENT-210_COMPONENT-211",
  "_COMPONENT-212_COMPONENT-213_COMPONENT-214_COMPONENT-215_COMPONENT-216_COMPONENT-217_COMPONENT",
  "-218_COMPONENT-219_COMPONENT-220_COMPONENT-221_COMPONENT-222_COMPONENT-223_COMPONENT-224_COMPO",
  "NENT-225_COMPONENT-226_COMPONENT-227_COMPONENT-228_COMPONENT-229_COMPONENT-230_COMPONENT-231_C",
  "OMPONENT-232_COMPONENT-233_COMPONENT-234_COMPONENT-235_COMPONENT-236_COMPONENT-237_COMPONENT-2",
  "38_COMPONENT-239_COMPONENT-240_COMPONENT-241_COMPONENT-242_COMPONENT-243_COMPONENT-244_COMPONE",
  "NT-245_COMPONENT-246_COMPONENT-247_COMPONENT-248_COMPONENT-249_COMPONENT-250_COMPONENT-251_COM",
  "PONENT-252_COMPONENT-253_COMPONENT-254_COMPONENT-255_COMPONENT-256_COMPONENT-257_COMPONENT-258",
  "_COMPONENT-259_COMPONENT-260_COMPONENT-261_COMPONENT-262_COMPONENT-263_COMPONENT-264_COMPONENT",
  "-265_COMPONENT-266_COMPONENT-267_COMPONENT-268_COMPONENT-269_COMPONENT-270_COMPONENT-271_COMPO",
  "NENT-272_COMPONENT-273_COMPONENT-274_COMPONENT-275_COMPONENT-276_COMPONENT-277_COMPONENT-278_C",
  "OMPONENT-279_COMPONENT-280_COMPONENT-281_COMPONENT-282_COMPONENT-283_COMPONENT-284_COMPONENT-2",
  "85_COMPONENT-286_COMPONENT-287_COMPONENT-288_COMPONENT-289_COMPONENT-290_COMPONENT-291_COMPONE",
  "NT-292_COMPONENT-293_COMPONENT-294_COMPONENT-295_COMPONENT-296_COMPONENT-297_COMPONENT-298_COM",
  "PONENT-299_COMPONENT-300_COMPONENT-301_COMPONENT-302_COMPONENT-303_COMPONENT-304_COMPONENT-305",
  "_COMPONENT-306_COMPONENT-307_COMPONENT-308_COMPONENT-309_COMPONENT-310_COMPONENT-311_COMPONENT",
  "-312_COMPONENT-313_COMPONENT-314_COMPONENT-315_COMPONENT-316_COMPONENT-317_COMPONENT-318_COMPO",
  "NENT-319_COMPONENT-320_COMPONENT-321_COMPONENT-322_COMPONENT-323_COMPONENT-324_COMPONENT-325_C",
  "OMPONENT-326_COMPONENT-327_COMPONENT-328_COMPONENT-329_COMPONENT-330_COMPONENT-331_COMPONENT-3",
  "32_COMPONENT-333_COMPONENT-334_COMPONENT-335_COMPONENT-336_COMPONENT-337_COMPONENT-338_COMPONE",
  "NT-339_COMPONENT-340_COMPONENT-341_COMPONENT-342_COMPONENT-343_COMPONENT-344_COMPONENT-345_COM",
  "PONENT-346_COMPONENT-347_COMPONENT-348_COMPONENT-349_COMPONENT-350_COMPONENT-351_COMPONENT-352",
  "_COMPONENT-353_COMPONENT-354_COMPONENT-355_COMPONENT-356_COMPONENT-357_COMPONENT-358_COMPONENT",
  "-359_COMPONENT-360_COMPONENT-361_COMPONENT-362_COMPONENT-363_COMPONENT-364_COMPONENT-365_COMPO",
  "NENT-366_COMPONENT-367_COMPONENT-368_COMPONENT-369_COMPONENT-370_COMPONENT-371_COMPONENT-372_C",
  "OMPONENT-373_COMPONENT-374_COMPONENT-375_COMPONENT-376_COMPONENT-377_COMPONENT-378_COMPONENT-3",
  "79_COMPONENT-380_COMPONENT-381_COMPONENT-382_COMPONENT-383_COMPONENT-384_COMPONENT-385_COMPONE",
  "NT-386_COMPONENT-387_COMPONENT-388_COMPONENT-389_COMPONENT-390_COMPONENT-391_COMPONENT-392_COM",
  "PONENT-393_COMPONENT-394_COMPONENT-395_COMPONENT-396_COMPONENT-397_COMPONENT-398_COMPONENT-399",
  "_COMPONENT-400_COMPONENT-401_COMPONENT-402_COMPONENT-403_COMPONENT-404_COMPONENT-405_COMPONENT",
  "-406_COMPONENT-407_COMPONENT-408_COMPONENT-409_COMPONENT-410_COMPONENT-411_COMPONENT-412_COMPO",
  "NENT-413_COMPONENT-414_COMPONENT-415_COMPONENT-416_COMPONENT-417_COMPONENT-418_COMPONENT-419_C",
  "OMPONENT-420_COMPONENT-421_COMPONENT-422_COMPONENT-423_COMPONENT-424_COMPONENT-425_COMPONENT-4",
  "26_COMPONENT-427_COMPONENT-428_COMPONENT-429_COMPONENT-430_COMPONENT-431_COMPONENT-432_COMPONE",
  "NT-433_COMPONENT-434_COMPONENT-435_COMPONENT-436_COMPONENT-437_COMPONENT-438_COMPONENT-439_COM",
  "PONENT-440_COMPONENT-441_COMPONENT-442_COMPONENT-443_COMPONENT-444_COMPONENT-445_COMPONENT-446",
  "_COMPONENT-447_COMPONENT-448_COMPONENT-449_COMPONENT-450_COMPONENT-451_COMPONENT-452_COMPONENT",
  "-453_COMPONENT-454_COMPONENT-455_COMPONENT-456_COMPONENT-457_COMPONENT-458_COMPONENT-459_COMPO",
  "NENT-460_COMPONENT-461_COMPONENT-462_COMPONENT-463_COMPONENT-464_COMPONENT-465_COMPONENT-466_C",
  "OMPONENT-467_COMPONENT-468_COMPONENT-469_COMPONENT-470_COMPONENT-471_COMPONENT-472_COMPONENT-4",
  "73_COMPONENT-474_COMPONENT-475_COMPONENT-476_COMPONENT-477_COMPONENT-478_COMPONENT-479_COMPONE",
  "NT-480_COMPONENT-481_COMPONENT-482_COMPONENT-483_COMPONENT-484_COMPONENT-485_COMPONENT-486_COM",
  "PONENT-487_COMPONENT-488_COMPONENT-489_COMPONENT-490_COMPONENT-491_COMPONENT-492_COMPONENT-493",
  "_COMPONENT-494_COMPONENT-495_COMPONENT-496_COMPONENT-497_COMPONENT-498_COMPONENT-499_COMPONENT",
  "-500_COMPONENT-501_COMPONENT-502_COMPONENT-503_COMPONENT-504_COMPONENT-505_COMPONENT-506_COMPO",
  "NENT-507_COMPONENT-508_COMPONENT-509_COMPONENT-510_COMPONENT-511_COMPONENT-512_COMPONENT-513_C",
  "OMPONENT-514_COMPONENT-515_COMPONENT-516_COMPONENT-517_COMPONENT-518_COMPONENT-519_COMPONENT-5",
  "20_COMPONENT-521_COMPONENT-522_COMPONENT-523_COMPONENT-524_COMPONENT-525_COMPONENT-526_COMPONE",
  "NT-527_COMPONENT-528_COMPONENT-529_COMPONENT-530_COMPONENT-531_COMPONENT-532_COMPONENT-533_COM",
  "PONENT-534_COMPONENT-535_COMPONENT-536_COMPONENT-537_COMPONENT-538_COMPONENT-539_COMPONENT-540",
  "_COMPONENT-541_COMPONENT-542_COMPONENT-543_COMPONENT-544_COMPONENT-545_COMPONENT-546_COMPONENT",
  "-547_COMPONENT-548_COMPONENT-549_COMPONENT-550_COMPONENT-551_COMPONENT-552_COMPONENT-553_COMPO",
  "NENT-554_COMPONENT-555_COMPONENT-556_COMPONENT-557_COMPONENT-558_COMPONENT-559_COMPONENT-560_C",
  "OMPONENT-561_COMPONENT-562_COMPONENT-563_COMPONENT-564_COMPONENT-565_COMPONENT-566_COMPONENT-5",
  "67_COMPONENT-568_COMPONENT-569_COMPONENT-570_COMPONENT-571_COMPONENT-572_COMPONENT-573_COMPONE",
  "NT-574_COMPONENT-575_COMPONENT-576_COMPONENT-577_COMPONENT-578_COMPONENT-579_COMPONENT-580_COM",
  "PONENT-581_COMPONENT-582_COMPONENT-583_COMPONENT-584_COMPONENT-585_COMPONENT-586_COMPONENT-587",
  "_COMPONENT-588_COMPONENT-589_COMPONENT-590_COMPONENT-591_COMPONENT-592_COMPONENT-593_COMPONENT",
  "-594_COMPONENT-595_COMPONENT-596_COMPONENT-597_COMPONENT-598_COMPONENT-599_COMPONENT-600_COMPO",
  "NENT-601_COMPONENT-602_COMPONENT-603_COMPONENT-604_COMPONENT-605_COMPONENT-606_COMPONENT-607_C",
  "OMPONENT-608_COMPONENT-609_COMPONENT-610_COMPONENT-611_COMPONENT-612_COMPONENT-613_COMPONENT-6",
  "14_COMPONENT-615_COMPONENT-616_COMPONENT-617_COMPONENT-618_COMPONENT-619_COMPONENT-620_COMPONE",
  "NT-621_COMPONENT-622_COMPONENT-623_COMPONENT-624_COMPONENT-625_COMPONENT-626_COMPONENT-627_COM",
  "PONENT-628_COMPONENT-629_COMPONENT-630_COMPONENT-631_COMPONENT-632_COMPONENT-633_COMPONENT-634",
  "_COMPONENT-635_COMPONENT-636_COMPONENT-637_COMPONENT-638_COMPONENT-639_COMPONENT-640_COMPONENT",
  "-641_COMPONENT-642_COMPONENT-643_COMPONENT-644_COMPONENT-645_COMPONENT-646_COMPONENT-647_COMPO",
  "NENT-648_COMPONENT-649_COMPONENT-650_COMPONENT-651_COMPONENT-652_COMPONENT-653_COMPONENT-654_C",
  "OMPONENT-655_COMPONENT-656_COMPONENT-657_COMPONENT-658_COMPONENT-659_COMPONENT-660_COMPONENT-6",
  "61_COMPONENT-662_COMPONENT-663_COMPONENT-664_COMPONENT-665_COMPONENT-666_COMPONENT-667_COMPONE",
  "NT-668_COMPONENT-669_COMPONENT-670_COMPONENT-671_COMPONENT-672_COMPONENT-673_COMPONENT-674_COM",
  "PONENT-675_COMPONENT-676_COMPONENT-677_COMPONENT-678_COMPONENT-679_COMPONENT-680_COMPONENT-681",
  "_COMPONENT-682_COMPONENT-683_COMPONENT-684_COMPONENT-685_COMPONENT-686_COMPONENT-687_COMPONENT",
  "-688_COMPONENT-689_COMPONENT-690_COMPONENT-691_COMPONENT-692_COMPONENT-693_COMPONENT-694_COMPO",
  "NENT-695_COMPONENT-696_COMPONENT-697_COMPONENT-698_COMPONENT-699_COMPONENT-700_COMPONENT-701_C",
  "OMPONENT-702_COMPONENT-703_COMPONENT-704_COMPONENT-705_COMPONENT-706_COMPONENT-707_COMPONENT-7",
  "08_COMPONENT-709_COMPONENT-710_COMPONENT-711_COMPONENT-712_COMPONENT-713_COMPONENT-714_COMPONE",
  "NT-715_COMPONENT-716_COMPONENT-717_COMPONENT-718_COMPONENT-719_COMPONENT-720_COMPONENT-721_COM",
  "PONENT-722_COMPONENT-723_COMPONENT-724_COMPONENT-725_COMPONENT-726_COMPONENT-727_COMPONENT-728",
  "_COMPONENT-729_COMPONENT-730_COMPONENT-731_COMPONENT-732_COMPONENT-733_COMPONENT-734_COMPONENT",
  "-735_COMPONENT-736_COMPONENT-737_COMPONENT-738_COMPONENT-739_COMPONENT-740_COMPONENT-741_COMPO",
  "NENT-742_COMPONENT-743_COMPONENT-744_COMPONENT-745_COMPONENT-746_COMPONENT-747_COMPONENT-748_C",
  "OMPONENT-749_COMPONENT-750_COMPONENT-751_COMPONENT-752_COMPONENT-753_COMPONENT-754_COMPONENT-7",
  "55_COMPONENT-756_COMPONENT-757_COMPONENT-758_COMPONENT-759_COMPONENT-760_COMPONENT-761_COMPONE",
  "NT-762_COMPONENT-763_COMPONENT-764_COMPONENT-765_COMPONENT-766_COMPONENT-767_COMPONENT-768~1AF",
  "F0!kylMMINNANxe%xf%xg%xh~1AFF5%xj%xk%NASALIZEDxd&xe&xf&xg&xh~1AFFD&xj&xk~1B000$aWE!i3lMaWzy!HE",
  "NTAIGANAlMA-1$A-2$A-3$A-WO$I-1$I-2$I-3$I-4$U-1$U-2$U-3$U-4$U-5$E-2$E-3$E-4$E-5$E-6$O-1$O-2$O-3",
  "$KA-1$KA-2$KA-3$KA-4$KA-5$KA-6$KA-7$KA-8$KA-9$KA-10$KA-11$KA-KE$KI-1$KI-2$KI-3$KI-4$KI-5$KI-6$",
  "KI-7$KI-8$KU-1$KU-2$KU-3$KU-4$KU-5$KU-6$KU-7$KE-1$KE-2$KE-3$KE-4$KE-5$KE-6$KO-1$KO-2$KO-3$KO-K",
  "I$SA-1$SA-2$SA-3$SA-4$SA-5$SA-6$SA-7$SA-8$SI-1$SI-2$SI-3$SI-4$SI-5$SI-6$SU-1$SU-2$SU-3$SU-4$SU",
  "-5$SU-6$SU-7$SU-8$SE-1$SE-2$SE-3$SE-4$SE-5$SO-1$SO-2$SO-3$SO-4$SO-5$SO-6$SO-7$TA-1$TA-2$TA-3$T",
  "A-4$TI-1$TI-2$TI-3$TI-4$TI-5$TI-6$TI-7$TU-1$TU-2$TU-3$TU-4$TU-TO$TE-1$TE-2$TE-3$TE-4$TE-5$TE-6",
  "$TE-7$TE-8$TE-9$TO-1$TO-2$TO-3$TO-4$TO-5$TO-6$TO-RA$NA-1$NA-2$NA-3$NA-4$NA-5$NA-6$NA-7$NA-8$NA",
  "-9$NI-1$NI-2$NI-3$NI-4$NI-5$NI-6$NI-7$NI-TE$NU-1$NU-2$NU-3$NE-1$NE-2$NE-3$NE-4$NE-5$NE-6$NE-KO",
  "$NO-1$NO-2$NO-3$NO-4$NO-5$HA-1$HA-2$HA-3$HA-4$HA-5$HA-6$HA-7$HA-8$HA-9$HA-10$HA-11$HI-1$HI-2$H",
  "I-3$HI-4$HI-5$HI-6$HI-7$HU-1$HU-2$HU-3$HE-1$HE-2$HE-3$HE-4$HE-5$HE-6$HE-7$HO-1$HO-2$HO-3$HO-4$",
  "HO-5$HO-6$HO-7$HO-8$MA-1$MA-2$MA-3$MA-4$MA-5$MA-6$MA-7$MI-1$MI-2$MI-3$MI-4$MI-5$MI-6$MI-7$MU-1",
  "$MU-2$MU-3$MU-4$ME-1$ME-2$ME-MA$MO-1$MO-2$MO-3$MO-4$MO-5$MO-6$YA-1$YA-2$YA-3$YA-4$YA-5$YA-YO$Y",
  "U-1$YU-2$YU-3$YU-4$YO-1$YO-2$YO-3$YO-4$YO-5$YO-6$RA-1$RA-2$RA-3$RA-4$RI-1$RI-2$RI-3$RI-4$RI-5$",
  "RI-6$RI-7$RU-1$RU-2$RU-3$RU-4$RU-5$RU-6$RE-1$RE-2$RE-3$RE-4$RO-1$RO-2$RO-3$RO-4$RO-5$RO-6$WA-1",
  "$WA-2$WA-3$WA-4$WA-5$WI-1$WI-2$WI-3$WI-4$WI-5$WE-1$WE-2$WE-3$WE-4$WO-1$WO-2$WO-3$WO-4$WO-5$WO-",
  "6$WO-7$N-MU-MO-1$N-MU-MO-2!i3lMaWWU!kylMaWzL%zy%WU~1B150!i3lMugy8%y0%zi~1B164!kylMugy8%y0%zi%N",
  "~1BC00!DUPLOYANlMH$X$P$T$F$K$L$B$D$V$G$R$P N$D S$F N$K M$R S$TH$ueDH;$$KK$ueJ$HL$LH$RH$M$N$J$S",
  "$M N$N M;$J$S J$Mzffg<$N<$J&fijMaDad$Szffg(bH$M S;$N;$J;$S;$M N;$N M<$J;$S J$J Szffg%N&S$S T&R",
  "%P&R$T S;%R$W$WH$W R$S N%M$K R S<$G$S K&R$A$ueOW$OA$O$AOU$I$E$jw$tvI$UI$fH$ueEH$ROMANIAN I$uef",
  "H$l4I$zy$U$EU$XW$U N$l4U;$ROMANIAN$UH$ueU$OOH$OW$OU$yR$zi$y8$WEI$WOW$NASAL U%O%I%A$PERNINaC%AM",
  "$uefY%aC%oX$yKM~1BC70_AFFIXlBjaSECANT<$mP<$rY;$l7yF<$mP<$i0;$bc;%lF%TANGENT%vV%Ei8;%I;%TANGENT",
  "~1BC80$i0ag;%wU%h4;%l4%fg%c8%lS%yW%yF~1BC90$l7ag;%wU%h4;%l4%fg%c8%lS%yW%yF%aZ~1BC9C_tGOzfdQ_TH",
  "ICKlMsQ_fkmv_qUCHINOOKhquV!SHORTHAND FORMATlMOVERLAP;$CONTINUING$foSTEP;$yn"]

end Taxonomy.Text.Names
